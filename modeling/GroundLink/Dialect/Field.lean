import GroundLink.Bytes

/-!
# Constrained fields

Most bytes of a payload may hold anything.  The exceptions are fields of an
enumeration, which must hold one of its values, and sets of flags, of which
only the known bits are kept.  `MessageKind.conform` brings a payload into the
form that a message has: its full length, every flag known, every enumerated
field good; or it names the first field that is not.
-/

namespace GroundLink.Dialect

/-- What a field may hold. -/
inductive Constraint
  /-- One of the values in the spans, both ends included. -/
  | oneOf (name : String) (spans : List (Nat × Nat))
  /-- Any of the bits in the mask. -/
  | within (name : String) (mask : Nat)
deriving Repr, DecidableEq

/-- A constrained field: where it starts, how many bytes it has, what it
holds. -/
structure Field where
  offset : Nat
  width : Nat
  constraint : Constraint
deriving Repr, DecidableEq

/-- A message of the dialect. -/
structure MessageKind where
  id : Nat
  name : String
  /-- The byte that is added to the checksum in the name of this message. -/
  crcExtra : UInt8
  /-- The length of the payload in full. -/
  length : Nat
  /-- The constrained fields, in the order in which they stand. -/
  fields : List Field
deriving Repr, DecidableEq

/-- A field of the named enumeration holds a value that it does not name. -/
structure UnknownValue where
  enumeration : String
  value : Nat
deriving Repr, DecidableEq

/-- Whether a value lies in one of the spans. -/
def inSpans (spans : List (Nat × Nat)) (value : Nat) : Bool :=
  spans.any fun span => span.1 ≤ value && value ≤ span.2

/-- The number that a field holds. -/
def Field.value (f : Field) (payload : Bytes) : Nat :=
  Bytes.leValue (Bytes.slice f.offset f.width payload)

/-- Checks an enumerated field; drops the unknown bits of a set of flags. -/
def Field.conform (f : Field) (payload : Bytes) : Except UnknownValue Bytes :=
  let value := f.value payload
  match f.constraint with
  | .oneOf name spans =>
      if inSpans spans value then .ok payload else .error ⟨name, value⟩
  | .within _ mask =>
      .ok (Bytes.splice f.offset (Bytes.ofLe f.width (value &&& mask)) payload)

/-- The fields in turn; the first bad one decides. -/
def conformFields : List Field → Bytes → Except UnknownValue Bytes
  | [], payload => .ok payload
  | f :: rest, payload =>
      match f.conform payload with
      | .error e => .error e
      | .ok payload => conformFields rest payload

/-- The payload in full length and good form. -/
def MessageKind.conform (k : MessageKind) (payload : Bytes) :
    Except UnknownValue Bytes :=
  conformFields k.fields (Bytes.fit k.length payload)

end GroundLink.Dialect
