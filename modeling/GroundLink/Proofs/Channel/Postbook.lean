import GroundLink.Channel.Postbook
import GroundLink.Proofs.Channel.Publisher
import GroundLink.Proofs.Wire.Message

/-!
# The post book is what is sent

The post book knows the steps and nothing else.  It is complete and leaves no
choice (`Broadcast.Kept.posted_iff`): over any steps exactly one list of letters
is posted, and it is the one that the downlink and its beacons send.

The invariant behind it is `Kept`: there are as many beacons as were set up, and
each of them holds what it was given last.
-/

namespace GroundLink

namespace Heartbeat

/-- A heartbeat is sent as its nine bytes. -/
theorem toMessage_eq (hb : Heartbeat) : hb.toMessage = ⟨0, hb.bytes⟩ := by
  -- a byte of the mode is what is left of it after a shift by whole bytes
  have hshift (n : UInt32) (hn : n.toNat < 32) :
      (hb.customMode >>> n).toUInt8 =
        UInt8.ofNat (hb.customMode.toNat / 2 ^ n.toNat) := by
    apply UInt8.toNat_inj.mp
    simp [Nat.shiftRight_eq_div_pow, Nat.mod_eq_of_lt hn]
  have hmode : Bytes.ofLe 4 hb.customMode.toNat =
      [hb.customMode.toUInt8, (hb.customMode >>> 8).toUInt8,
        (hb.customMode >>> 16).toUInt8, (hb.customMode >>> 24).toUInt8] := by
    rw [hshift 8 (by decide), hshift 16 (by decide), hshift 24 (by decide)]
    simp [Bytes.ofLe, Nat.div_div_eq_div_mul]
  unfold toMessage bytes
  rw [hmode]
  rfl

end Heartbeat

namespace Broadcast

variable {b : Broadcast} {own : UInt8} {k : Nat} {past steps : List Step}
  {s : Step} {camera camera' : Bool} {hb hb' : Heartbeat}
  {letters letters' : List Letter}

/-! ## The book leaves no choice -/

/-- Beacons are counted as they are added. -/
theorem countP_isAdd_cons (s : Step) (past : List Step) :
    (s :: past).countP Step.isAdd =
      past.countP Step.isAdd + if s.isAdd then 1 else 0 :=
  List.countP_cons

/-- Only a beacon that was set up advertises anything. -/
theorem Advertises.lt (h : Advertises k past camera hb) :
    k < past.countP Step.isAdd := by
  induction h with
  | added h =>
      rw [countP_isAdd_cons, h]
      exact Nat.lt_succ_self k
  | given _ ih =>
      rw [countP_isAdd_cons]
      exact Nat.lt_add_right _ ih
  | still _ _ ih =>
      rw [countP_isAdd_cons]
      exact Nat.lt_add_right _ ih

/-- **A beacon advertises one thing** at a time. -/
theorem Advertises.unique (h : Advertises k past camera hb)
    (h' : Advertises k past camera' hb') : camera = camera' ∧ hb = hb' := by
  induction h generalizing camera' hb' with
  | added hcount =>
      cases h' with
      | added => exact ⟨rfl, rfl⟩
      | still hold _ =>
          -- the beacon was there before it was set up
          have hlt := hold.lt
          omega
  | given _ ih =>
      cases h' with
      | given hold => exact ⟨(ih hold).1, rfl⟩
      | still _ hs => exact (hs _ rfl).elim
  | still hold hs ih =>
      cases h' with
      | added hcount =>
          have hlt := hold.lt
          omega
      | given _ => exact (hs _ rfl).elim
      | still hold' _ => exact ih hold'

/-- **A step sends one list of letters.** -/
theorem Sends.unique (h : Sends own past s letters)
    (h' : Sends own past s letters') : letters = letters' := by
  cases h with
  | message => cases h' with
    | message => rfl
    | nothing hnot => cases hnot
  | heartbeat => cases h' with
    | heartbeat => rfl
    | nothing hnot => cases hnot
  | text hshort => cases h' with
    | text _ => rfl
    | refusal hlong => omega
    | nothing hnot => cases hnot
  | refusal hlong => cases h' with
    | text hshort => omega
    | refusal _ => rfl
    | nothing hnot => cases hnot
  | round hold => cases h' with
    | round hold' => rw [(hold.unique hold').2]
    | roundWithCamera hold' => cases (hold.unique hold').1
    | noBeacon hnone =>
        have hlt := hold.lt
        omega
    | nothing hnot => cases hnot
  | roundWithCamera hold => cases h' with
    | round hold' => cases (hold.unique hold').1
    | roundWithCamera hold' => rw [(hold.unique hold').2]
    | noBeacon hnone =>
        have hlt := hold.lt
        omega
    | nothing hnot => cases hnot
  | noBeacon hnone => cases h' with
    | round hold' =>
        have hlt := hold'.lt
        omega
    | roundWithCamera hold' =>
        have hlt := hold'.lt
        omega
    | noBeacon _ => rfl
    | nothing hnot => cases hnot
  | nothing hnot => cases h' with
    | nothing _ => rfl
    | noBeacon _ => rfl
    | _ => cases hnot

/-- **Over many steps one list of letters is posted.** -/
theorem Posted.unique (h : Posted own past steps letters)
    (h' : Posted own past steps letters') : letters = letters' := by
  induction h generalizing letters' with
  | nil =>
      cases h'
      rfl
  | cons hfirst _ ih =>
      cases h' with
      | cons hfirst' hmore' => rw [hfirst.unique hfirst', ih hmore']

/-! ## The book is kept -/

/-- **What the beacons hold is in the book**: there are as many as were set up,
and each holds what it was given last. -/
structure Kept (past : List Step) (b : Broadcast) : Prop where
  count : b.beacons.length = past.countP Step.isAdd
  advertised : ∀ k beacon, b.beacons[k]? = some beacon →
    Advertises k past beacon.camera beacon.heartbeat

/-- Nothing was set up yet. -/
theorem Kept.start (d : Downlink) : Kept [] { downlink := d } where
  count := rfl
  advertised := by
    intro k beacon hbeacon
    cases hbeacon

/-- A step that changes no beacon. -/
theorem Kept.of_beacons_eq (h : Kept past b) {b' : Broadcast}
    (hsame : b'.beacons = b.beacons) (hadd : s.isAdd = false)
    (hgiven : ∀ k new, s ≠ .advertise k new) : Kept (s :: past) b' where
  count := by
    rw [hsame, h.count, countP_isAdd_cons, hadd]
    rfl
  advertised := by
    intro k beacon hbeacon
    rw [hsame] at hbeacon
    exact .still (h.advertised k beacon hbeacon) (hgiven k)

/-- **One step.**  The book says what the beacons hold afterwards. -/
theorem Kept.step (h : Kept past b) (s : Step) :
    Kept (s :: past) (b.step s).1 := by
  cases s with
  | ask op => exact h.of_beacons_eq rfl rfl (by simp)
  | round j =>
      have hsame : (b.step (.round j)).1.beacons = b.beacons := by
        cases hj : b.beacons[j]? <;> simp [Broadcast.step, hj]
      exact h.of_beacons_eq hsame rfl (by simp)
  | add camera =>
      refine ⟨?_, ?_⟩
      · rw [countP_isAdd_cons, ← h.count]
        exact List.length_append
      · intro k beacon hbeacon
        simp only [Broadcast.step] at hbeacon
        by_cases hk : k < b.beacons.length
        · rw [List.getElem?_append_left hk] at hbeacon
          exact .still (h.advertised k beacon hbeacon) (by simp)
        · -- the new one is the last
          rw [List.getElem?_append_right (Nat.le_of_not_lt hk),
            List.getElem?_singleton] at hbeacon
          split at hbeacon
          · obtain rfl := Option.some.inj hbeacon
            apply Advertises.added
            have hcount := h.count
            omega
          · cases hbeacon
  | advertise j new =>
      refine ⟨?_, ?_⟩
      · rw [countP_isAdd_cons, ← h.count]
        exact List.length_modify _ _ _
      · intro k beacon hbeacon
        simp only [Broadcast.step, List.getElem?_modify, Option.map_eq_map,
          Option.map_eq_some_iff] at hbeacon
        obtain ⟨old, hold, rfl⟩ := hbeacon
        have hadvertised := h.advertised k old hold
        by_cases hjk : j = k
        · subst hjk
          rw [if_pos rfl]
          exact .given hadvertised
        · rw [if_neg hjk]
          exact .still hadvertised fun _ hs => hjk (Step.advertise.inj hs).1

/-- **Many steps**: the latest of them stands first in the book. -/
theorem Kept.run (h : Kept past b) (steps : List Step) :
    Kept (steps.reverse ++ past) (b.run steps) := by
  induction steps generalizing past b with
  | nil => exact h
  | cons s steps ih =>
      rw [run_cons, List.reverse_cons, List.append_assoc]
      exact ih (h.step s)

/-! ## The book is what is sent -/

/-- **What a step sends is in the book.** -/
theorem Kept.sends (h : Kept past b) (s : Step) :
    Sends b.downlink.publisher.component past s (b.letters s) := by
  cases s with
  | ask op =>
      cases op with
      | send component m => exact .message
      | sendHeartbeat component hb =>
          simp only [letters, Downlink.Op.letters, hb.toMessage_eq]
          exact .heartbeat
      | sendStatusText severity text =>
          simp only [letters, Downlink.Op.letters]
          by_cases hshort : text.toUTF8.toList.length ≤ Message.maxStatusText
          · rw [Message.statusText?_of_short severity hshort]
            exact .text hshort
          · have hlong := Nat.lt_of_not_le hshort
            rw [Message.statusText?_of_long severity hlong]
            exact .refusal hlong
      | _ => exact .nothing rfl
  | add camera => exact .nothing rfl
  | advertise j new => exact .nothing rfl
  | round j =>
      cases hj : b.beacons[j]? with
      | none =>
          have hnone : past.countP Step.isAdd ≤ j := by
            rw [← h.count]
            exact List.getElem?_eq_none_iff.mp hj
          simp only [letters, hj]
          exact .noBeacon hnone
      | some beacon =>
          have hadvertised := h.advertised j beacon hj
          simp only [letters, hj, Option.map_some, Option.getD_some,
            Beacon.letters, beacon.heartbeat.toMessage_eq]
          cases hcamera : beacon.camera with
          | false =>
              rw [hcamera] at hadvertised
              exact .round hadvertised
          | true =>
              rw [hcamera] at hadvertised
              exact .roundWithCamera hadvertised

/-- Over many steps, what is sent is posted. -/
theorem Kept.posted (h : Kept past b) (steps : List Step) :
    Posted b.downlink.publisher.component past steps (b.mail steps) := by
  induction steps generalizing past b with
  | nil => exact .nil
  | cons s steps ih =>
      have hmore := ih (h.step s)
      -- letters change the publisher's number and not its name
      rw [b.publisher_step s] at hmore
      exact .cons (h.sends s) hmore

/-- **The post book is what is sent.** -/
theorem Kept.posted_iff (h : Kept past b) (steps : List Step) :
    Posted b.downlink.publisher.component past steps letters ↔
      letters = b.mail steps := by
  constructor
  · intro hposted
    exact hposted.unique (h.posted steps)
  · rintro rfl
    exact h.posted steps

end Broadcast

end GroundLink
