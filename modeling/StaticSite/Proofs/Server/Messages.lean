import StaticSite.Proofs.Component.Filling
import StaticSite.Proofs.Server.Escaping
import StaticSite.Server.Exchange

/-!
# Responses as a client reads them

A client reads a response line by line: its status, its fields up to an empty line, and then as
many octets as a field says.  It reads every response of the server so, and knows where it ends.
-/

namespace StaticSite

namespace Server

/-- Whether a character may stand in a line of a response. -/
def isVisible (character : Char) : Bool := 0x20 ≤ character.toNat && character.toNat < 0x7F

/-- Whether a text is the name of a field. -/
def isFieldName (name : Text) : Bool :=
  ! name.isEmpty && name.all fun character => character.isAlphanum || character = '-'

/-- A response that was read. -/
structure Message where
  code : Nat
  phrase : Text
  fields : List (Text × Text)
  body : Bytes
  deriving DecidableEq, Repr

/-- Read a line that ends in a carriage return and a line feed. -/
def readHeadLine? : Bytes → Option (Text × Bytes)
  | [] => none
  | octet :: rest =>
    if octet = 13 ∧ rest.head? = some 10 then some ([], rest.tail)
    else if isVisible (Char.ofNat octet.toNat) then
      (readHeadLine? rest).map fun (line, later) => (Char.ofNat octet.toNat :: line, later)
    else none

def readNumber? (digits : Text) : Option Nat :=
  if digits ≠ [] ∧ digits.all Char.isDigit then some (Nat.ofDigitChars 10 digits 0) else none

/-- Read the first line of a response: the version, a code of three digits and a phrase. -/
def readStatus? (line : Text) : Option (Nat × Text) := do
  let (digits, phrase) ← Text.cut? " " (← Text.after? "HTTP/1.1 " line)
  if digits.length = 3 then return (← readNumber? digits, phrase) else none

def readField? (line : Text) : Option (Text × Text) := do
  let (name, value) ← Text.cut? ": " line
  if isFieldName name then return (name, value) else none

/-- Read the fields of a response up to an empty line. -/
def readFields? : (fuel : Nat) → Bytes → Option (List (Text × Text) × Bytes)
  | 0, _ => none
  | fuel + 1, octets => do
    let (line, rest) ← readHeadLine? octets
    if line = [] then return ([], rest)
    let field ← readField? line
    let (fields, body) ← readFields? fuel rest
    return (field :: fields, body)

/-- How long the body is; one field has to say so. -/
def bodyLength? (fields : List (Text × Text)) : Option Nat :=
  match fields.filter fun field => field.1 = "Content-Length".toList with
  | [(_, digits)] => readNumber? digits
  | _ => none

/-- Read one response, and what is left behind it.  A client that asks for the head expects no
body. -/
def readMessage? (headOnly : Bool) (octets : Bytes) : Option (Message × Bytes) := do
  let (line, rest) ← readHeadLine? octets
  let (code, phrase) ← readStatus? line
  let (fields, rest) ← readFields? rest.length rest
  let length ← bodyLength? fields
  let size := if headOnly then 0 else length
  if rest.length < size then none
  else return (⟨code, phrase, fields, rest.take size⟩, rest.drop size)

/-- A response as a client is to read it. -/
def Response.message (response : Response) (headOnly : Bool) : Message where
  code := response.status.code
  phrase := response.status.phrase
  fields := [("Content-Type".toList, response.contentType),
    ("Content-Length".toList, Text.ofNat response.body.length),
    ("Cache-Control".toList, "no-store".toList), ("Connection".toList, "close".toList)]
  body := if headOnly then [] else response.body

section Reading

variable {line name value : Text} {rest : Bytes} {fields : List (Text × Text)}

theorem encodeChar_of_visible {character : Char} (visible : isVisible character = true) :
    String.utf8EncodeChar character = [UInt8.ofNat character.toNat] := by
  simp only [isVisible, Bool.and_eq_true, decide_eq_true_eq] at visible
  have value : character.val.toNat = character.toNat := rfl
  rw [String.utf8EncodeChar, value, if_pos (by omega)]

/-- A line without control characters is read up to its end. -/
theorem readHeadLine?_append (visible : line.all isVisible = true) :
    readHeadLine? (Utf8.encode line ++ ([13, 10] ++ rest)) = some (line, rest) := by
  induction line with
  | nil => rfl
  | cons character line ih =>
      rw [List.all_cons, Bool.and_eq_true] at visible
      have bounds := visible.1
      simp only [isVisible, Bool.and_eq_true, decide_eq_true_eq] at bounds
      have value : (UInt8.ofNat character.toNat).toNat = character.toNat :=
        Utf8.toNat_ofNat (by omega)
      have other : UInt8.ofNat character.toNat ≠ 13 := by
        intro same
        rw [same] at value
        have thirteen : (13 : UInt8).toNat = 13 := rfl
        omega
      rw [Utf8.encode_cons, encodeChar_of_visible visible.1, List.singleton_append,
        List.cons_append, readHeadLine?, if_neg fun both => other both.1, value,
        Char.ofNat_toNat, if_pos visible.1, ih visible.2]
      rfl

theorem readNumber?_ofNat (number : Nat) : readNumber? (Text.ofNat number) = some number := by
  have digits : (Text.ofNat number).all Char.isDigit = true :=
    List.all_eq_true.2 fun character member => Component.isDigit_of_mem_ofNat member
  unfold readNumber?
  rw [if_pos ⟨Nat.toDigits_ne_nil, digits⟩, Text.ofNat, Nat.ofDigitChars_ten_toDigits]

theorem readField?_append (isName : isFieldName name = true) :
    readField? (name ++ ": ".toList ++ value) = some (name, value) := by
  have noColon : ':' ∉ name := by
    intro member
    simp only [isFieldName, Bool.and_eq_true, List.all_eq_true] at isName
    exact absurd (isName.2 ':' member) (by decide)
  have cut : Text.cut? ": ".toList (name ++ ": ".toList ++ value) = some (name, value) := by
    have passes : Text.Passes ": ".toList name := Text.passes_of_not_mem noColon
    rw [List.append_assoc, Text.cut?_append_of_passes passes, Text.cut?_append]
    simp
  unfold readField?
  rw [cut]
  exact if_pos isName

/-- The octets of the fields of a response. -/
def fieldOctets (fields : List (Text × Text)) : Bytes :=
  fields.flatMap fun field => Utf8.encode (field.1 ++ ": ".toList ++ field.2) ++ [13, 10]

/-- Fields are read up to the empty line behind them. -/
theorem readFields?_append {fuel : Nat} (enough : fields.length < fuel)
    (written : ∀ field ∈ fields, isFieldName field.1 = true ∧
      (field.1 ++ ": ".toList ++ field.2).all isVisible = true) :
    readFields? fuel (fieldOctets fields ++ ([13, 10] ++ rest)) = some (fields, rest) := by
  induction fields generalizing fuel with
  | nil =>
      obtain ⟨fuel, rfl⟩ := Nat.exists_eq_succ_of_ne_zero (Nat.ne_of_gt enough)
      rfl
  | cons field fields ih =>
      obtain ⟨fuel, rfl⟩ := Nat.exists_eq_succ_of_ne_zero (Nat.ne_zero_of_lt enough)
      obtain ⟨name, value⟩ := field
      obtain ⟨⟨isName, visible⟩, others⟩ := List.forall_mem_cons.1 written
      have later := ih (Nat.lt_of_succ_lt_succ enough) others
      have nonempty : name ++ ": ".toList ++ value ≠ [] := by simp
      rw [fieldOctets, List.flatMap_cons, List.append_assoc, List.append_assoc, ← fieldOctets,
        readFields?, readHeadLine?_append visible]
      simp only [Option.bind_eq_bind, Option.bind_some, if_neg nonempty,
        readField?_append isName, later]
      rfl

end Reading

section Responses

variable {response : Response}

/-- The first line of a response. -/
def Status.line (status : Status) : Text :=
  "HTTP/1.1 ".toList ++ Text.ofNat status.code ++ " ".toList ++ status.phrase

theorem readStatus?_line (status : Status) :
    readStatus? status.line = some (status.code, status.phrase) := by
  cases status <;> rfl

theorem visible_line (status : Status) : status.line.all isVisible = true := by
  cases status <;> rfl

/-- The head of a response is its first line and its fields. -/
theorem encode_head (response : Response) (headOnly : Bool) :
    Utf8.encode response.head = Utf8.encode response.status.line ++
      ([13, 10] ++ (fieldOctets (response.message headOnly).fields ++ [13, 10])) := by
  have ends : Utf8.encode "\r\n".toList = [13, 10] := rfl
  have typed : "Content-Type: ".toList = "Content-Type".toList ++ ": ".toList := rfl
  have sized : "Content-Length: ".toList = "Content-Length".toList ++ ": ".toList := rfl
  have cached : "Cache-Control: no-store\r\n".toList =
      "Cache-Control".toList ++ ": ".toList ++ "no-store".toList ++ "\r\n".toList := rfl
  have closed : "Connection: close\r\n\r\n".toList =
      "Connection".toList ++ ": ".toList ++ "close".toList ++ "\r\n".toList ++ "\r\n".toList := rfl
  unfold Response.head Status.line fieldOctets Response.message
  rw [typed, sized, cached, closed]
  simp only [List.flatMap_cons, List.flatMap_nil, Utf8.encode_append, ends, List.append_assoc,
    List.nil_append]

theorem written_fields (visible : response.contentType.all isVisible = true) (headOnly : Bool) :
    ∀ field ∈ (response.message headOnly).fields, isFieldName field.1 = true ∧
      (field.1 ++ ": ".toList ++ field.2).all isVisible = true := by
  have digits : (Text.ofNat response.body.length).all isVisible = true := by
    refine List.all_eq_true.2 fun character member => ?_
    have digit : character.isDigit = true := Component.isDigit_of_mem_ofNat member
    simp only [Char.isDigit, Bool.and_eq_true, decide_eq_true_eq, ge_iff_le,
      UInt32.le_iff_toNat_le] at digit
    have value : character.val.toNat = character.toNat := rfl
    have low : '0'.val.toNat = 48 := rfl
    have high : '9'.val.toNat = 57 := rfl
    simp only [isVisible, Bool.and_eq_true, decide_eq_true_eq]
    omega
  simp only [Response.message, List.forall_mem_cons, List.all_append, visible, digits,
    Bool.and_true]
  decide

/-- A client reads a response of the server whatever follows it, and finds its end. -/
theorem readMessage?_octets (visible : response.contentType.all isVisible = true) (method : Text)
    (rest : Bytes) :
    readMessage? (method = "HEAD") (response.octets method ++ rest) =
      some (response.message (method = "HEAD"), rest) := by
  set headOnly : Bool := decide (method = "HEAD") with asks
  have body : (if method = "HEAD" then [] else response.body) = (response.message headOnly).body := by
    simp [Response.message, asks]
  have length : bodyLength? (response.message headOnly).fields = some response.body.length :=
    readNumber?_ofNat response.body.length
  have fields := fun after : Bytes => @readFields?_append after
    (response.message headOnly).fields
    (fieldOctets (response.message headOnly).fields ++ ([13, 10] ++ after)).length
    (by simp [fieldOctets, Response.message]; omega) (written_fields visible headOnly)
  unfold readMessage? Response.octets
  rw [body, encode_head response headOnly]
  simp only [List.append_assoc, readHeadLine?_append (visible_line response.status),
    Option.bind_eq_bind, Option.bind_some, readStatus?_line, fields, length]
  cases headOnly with
  | true => simp [Response.message]
  | false => simp [Response.message]

end Responses

end Server

end StaticSite
