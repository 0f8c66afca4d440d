import NodeNet.Base.Bytes
import NodeNet.Base.Program

/-!
# Discovery DNS

DNS names and messages as the discovery operations read and build them.  A name on the wire is a sequence of
labels, each with its length in front, and may continue elsewhere in the message; the labels that `decodeName`
finds determine both forms it answers, the bytes in lower case and the text with a full stop behind each label
(`decodeName_spells`).  `encodeName` cuts a text at its full stops (`encodeName_eq_ok_iff`).  A question that was
built is read back with its name in lower case (`parse_build`).
-/

namespace NodeNet.Discovery

open List

def maxDiscoveryDnsMessageBytes : Nat := 9000
def maxDiscoveryDnsRecords : Nat := 1024
def maxDiscoveryDnsPointers : Nat := 32
def maxDiscoveryDnsNameBytes : Nat := 255
def maxDiscoveryDnsTxtEntries : Nat := 128
def maxDiscoveryDnsTxtBytes : Nat := 4096

inductive DiscoveryDnsError where
  | truncated
  | messageTooLarge
  | tooManyRecords
  | invalidLabel
  | nameTooLong
  | compressionLoop
  | tooManyPointers
  | invalidRecordLength
  | invalidTxt
  | duplicateTxtKey
deriving DecidableEq

structure DiscoveryDnsName where
  canonicalWire : Bytes
  text : Option Bytes
deriving DecidableEq

structure DiscoveryDnsQuestion where
  name : DiscoveryDnsName
  queryType : UInt16
  queryClass : UInt16
  requestsUnicast : Bool
deriving DecidableEq

structure DiscoveryDnsTxtEntry where
  key : Bytes
  value : Bytes
  textValue : Option Bytes
deriving DecidableEq

inductive DiscoveryDnsRecordData where
  | ptr (name : DiscoveryDnsName)
  | srv (priority weight port : UInt16) (target : DiscoveryDnsName)
  | txt (entries : List DiscoveryDnsTxtEntry)
  | a (address : Bytes)
  | aaaa (address : Bytes)
  | unknown
deriving DecidableEq

structure DiscoveryDnsRecord where
  name : DiscoveryDnsName
  recordType : UInt16
  recordClass : UInt16
  cacheFlush : Bool
  ttl : UInt32
  data : DiscoveryDnsRecordData
deriving DecidableEq

structure DiscoveryDnsMessage where
  id : UInt16
  flags : UInt16
  questions : List DiscoveryDnsQuestion
  answers : List DiscoveryDnsRecord
  authorities : List DiscoveryDnsRecord
  additionals : List DiscoveryDnsRecord
deriving DecidableEq

namespace DiscoveryDnsMessage

variable (message : DiscoveryDnsMessage)

def isResponse : Bool := message.flags &&& 0x8000 ≠ 0

def truncated : Bool := message.flags &&& 0x0200 ≠ 0

def records : List DiscoveryDnsRecord := message.answers ++ message.authorities ++ message.additionals

end DiscoveryDnsMessage

/-! ### Text -/

/-- The lower case of an ASCII letter, and any other byte as it is. -/
def toAsciiLowercase (byte : UInt8) : UInt8 := if 65 ≤ byte ∧ byte ≤ 90 then byte + 32 else byte

def lowercase (bytes : Bytes) : Bytes := bytes.map toAsciiLowercase

def fullStop : UInt8 := 46

/-- How many bytes follow the first one of a character, and the bounds of the second one. -/
def utf8Lead (byte : UInt8) : Option (Nat × UInt8 × UInt8) :=
  if byte < 0x80 then some (0, 0x80, 0xbf)
  else if 0xc2 ≤ byte ∧ byte ≤ 0xdf then some (1, 0x80, 0xbf)
  else if byte = 0xe0 then some (2, 0xa0, 0xbf)
  else if byte = 0xed then some (2, 0x80, 0x9f)
  else if 0xe1 ≤ byte ∧ byte ≤ 0xef then some (2, 0x80, 0xbf)
  else if byte = 0xf0 then some (3, 0x90, 0xbf)
  else if 0xf1 ≤ byte ∧ byte ≤ 0xf3 then some (3, 0x80, 0xbf)
  else if byte = 0xf4 then some (3, 0x80, 0x8f)
  else none

/-- Strict UTF-8 in the middle of a character that takes `expected` more bytes, the next one within the bounds. -/
def validUtf8From : Nat → UInt8 → UInt8 → Bytes → Bool
  | expected, _, _, [] => expected = 0
  | 0, _, _, byte :: bytes =>
    match utf8Lead byte with
    | none => false
    | some (expected, low, high) => validUtf8From expected low high bytes
  | expected + 1, low, high, byte :: bytes =>
    low ≤ byte && byte ≤ high && validUtf8From expected 0x80 0xbf bytes

def validUtf8 (bytes : Bytes) : Bool := validUtf8From 0 0x80 0xbf bytes

/-! ### Names -/

/-- Where the reading of a name stands. -/
structure NameCursor where
  cursor : Nat
  consumed : Nat := 0
  jumped : Bool := false
  traversals : Nat := 0
  visited : List Nat := []
  wire : Bytes := []
  textLabels : List Bytes := []
  allText : Bool := true
deriving DecidableEq

/-- Counts bytes as consumed until the first pointer. -/
def NameCursor.consume (s : NameCursor) (bytes : Nat) : Nat := if s.jumped then s.consumed else s.consumed + bytes

variable (input : Bytes)

def followPointer (s : NameCursor) (high low : UInt8) : Except DiscoveryDnsError NameCursor :=
  let pointer := (high &&& 0x3f).toNat * 256 + low.toNat
  if pointer ≥ input.length ∨ pointer ∈ s.visited then .error .compressionLoop
  else if s.traversals + 1 > maxDiscoveryDnsPointers then .error .tooManyPointers
  else .ok { s with
    consumed := s.consume 2
    traversals := s.traversals + 1
    visited := s.visited ++ [pointer]
    cursor := pointer
    jumped := true }

def readLabel (s : NameCursor) (lengthByte : UInt8) : Except DiscoveryDnsError NameCursor :=
  let length := lengthByte.toNat
  if length > 63 then .error .invalidLabel
  else if s.cursor + 1 + length > input.length then .error .truncated
  else if s.wire.length + length + 2 > maxDiscoveryDnsNameBytes then .error .nameTooLong
  else
    let label := field input (s.cursor + 1) length
    let isText := s.allText && validUtf8 label
    .ok { s with
      wire := s.wire ++ lengthByte :: lowercase label
      textLabels := if isText then s.textLabels ++ [label] else s.textLabels
      allText := isText
      consumed := s.consume (1 + length)
      cursor := s.cursor + 1 + length }

/-- Reads a label, a pointer or the end of a name.  Answers whether it was the end. -/
def decodeStep (s : NameCursor) : Except DiscoveryDnsError (NameCursor × Bool) :=
  match input[s.cursor]? with
  | none => .error .truncated
  | some lengthByte =>
    if lengthByte &&& 0xc0 = 0xc0 then
      match input[s.cursor + 1]? with
      | none => .error .truncated
      | some second => (followPointer input s lengthByte second).map fun s => (s, false)
    else if lengthByte &&& 0xc0 ≠ 0 then .error .invalidLabel
    else if lengthByte = 0 then .ok ({ s with wire := s.wire ++ [0], consumed := s.consume 1 }, true)
    else (readLabel input s lengthByte).map fun s => (s, false)

def decodeLoop (input : Bytes) : Nat → NameCursor → Except DiscoveryDnsError NameCursor
  | 0, _ => .error .compressionLoop
  | steps + 1, s =>
    match decodeStep input s with
    | .error error => .error error
    | .ok (s, true) => .ok s
    | .ok (s, false) => decodeLoop input steps s

/-- More steps than a name can take. -/
def maxNameSteps : Nat := 288

variable (labels : List Bytes)

/-- Labels with a full stop behind each of them. -/
def presentation : Bytes :=
  if labels = [] then [fullStop] else [fullStop].intercalate labels ++ [fullStop]

def decodeName (start : Nat) : Except DiscoveryDnsError (DiscoveryDnsName × Nat) :=
  if start ≥ input.length then .error .truncated
  else
    match decodeLoop input maxNameSteps { cursor := start } with
    | .error error => .error error
    | .ok s => .ok (⟨s.wire, if s.allText then some (presentation s.textLabels) else none⟩, s.consumed)

/-- Labels with their lengths in front. -/
def encodeLabels : List Bytes → Except DiscoveryDnsError Bytes
  | [] => .ok []
  | label :: labels =>
    if label = [] ∨ label.length > 63 then .error .invalidLabel
    else (encodeLabels labels).map fun output => UInt8.ofNat label.length :: label ++ output

/-- The text without a full stop at its end. -/
def stripFullStop (name : Bytes) : Bytes := if name.getLast? = some fullStop then name.dropLast else name

def encodeName (name : Bytes) : Except DiscoveryDnsError Bytes :=
  if stripFullStop name = [] then .ok [0]
  else
    match encodeLabels ((stripFullStop name).splitOn fullStop) with
    | .error error => .error error
    | .ok output =>
      if (output ++ [0]).length > maxDiscoveryDnsNameBytes then .error .nameTooLong else .ok (output ++ [0])

/-! ### Messages -/

def buildDiscoveryDnsQuery (id : UInt16) (name : Bytes) (queryType : UInt16) (requestsUnicast : Bool) :
    Except DiscoveryDnsError Bytes :=
  match encodeName name with
  | .error error => .error error
  | .ok encodedName =>
    if 12 + encodedName.length + 4 > 512 then .error .messageTooLarge
    else .ok (be16 id ++ be16 0 ++ be16 1 ++ be16 0 ++ be16 0 ++ be16 0 ++ encodedName ++ be16 queryType ++
      be16 (1 ||| if requestsUnicast then 0x8000 else 0))

def readU16 (offset : Nat) : Except DiscoveryDnsError UInt16 :=
  if offset + 2 ≤ input.length then .ok (u16At input offset) else .error .truncated

def readU32 (offset : Nat) : Except DiscoveryDnsError UInt32 :=
  if offset + 4 ≤ input.length then .ok (u32At input offset) else .error .truncated

/-- Reads questions.  Answers them with the offset behind them. -/
def parseQuestions (input : Bytes) : Nat → Nat → Except DiscoveryDnsError (List DiscoveryDnsQuestion × Nat)
  | 0, offset => .ok ([], offset)
  | count + 1, offset => do
    let (name, consumed) ← decodeName input offset
    let offset := offset + consumed
    let queryType ← readU16 input offset
    let rawClass ← readU16 input (offset + 2)
    let (questions, offset) ← parseQuestions input count (offset + 4)
    pure (⟨name, queryType, rawClass &&& 0x7fff, rawClass &&& 0x8000 ≠ 0⟩ :: questions, offset)

/-- Reads the entries of a text record, given those before and their keys in lower case. -/
def parseTxtFrom (input : Bytes) : Nat → Nat → List DiscoveryDnsTxtEntry → List Bytes →
    Except DiscoveryDnsError (List DiscoveryDnsTxtEntry)
  | 0, _, entries, _ => .ok entries
  | steps + 1, offset, entries, keys =>
    if offset ≥ input.length then .ok entries
    else if entries.length ≥ maxDiscoveryDnsTxtEntries then .error .invalidTxt
    else
      let length := (u8At input offset).toNat
      if offset + 1 + length > input.length then .error .truncated
      else
        let entry := field input (offset + 1) length
        let split := entry.findIdx (· = 61)
        let key := entry.take split
        if key.isEmpty || key.any (fun byte => byte < 0x20 || byte > 0x7e || byte = 61) then .error .invalidTxt
        else if lowercase key ∈ keys then .error .duplicateTxtKey
        else
          let value := if split = entry.length then [] else entry.drop (split + 1)
          parseTxtFrom input steps (offset + 1 + length)
            (entries ++ [⟨key, value, if validUtf8 value then some value else none⟩]) (lowercase key :: keys)

def parseTxt : Except DiscoveryDnsError (List DiscoveryDnsTxtEntry) :=
  if input.length > maxDiscoveryDnsTxtBytes then .error .invalidTxt
  else parseTxtFrom input (input.length + 1) 0 [] []

/-- Reads the data of a record that starts at `offset`. -/
def parseRecordData (offset dataLength : Nat) (recordType : UInt16) :
    Except DiscoveryDnsError DiscoveryDnsRecordData :=
  if recordType = 1 ∧ dataLength = 4 then .ok (.a (field input offset dataLength))
  else if recordType = 12 then do
    let (value, valueLength) ← decodeName input offset
    if valueLength ≠ dataLength then .error .invalidRecordLength else .ok (.ptr value)
  else if recordType = 16 then do
    let entries ← parseTxt (field input offset dataLength)
    .ok (.txt entries)
  else if recordType = 28 ∧ dataLength = 16 then .ok (.aaaa (field input offset dataLength))
  else if recordType = 33 ∧ dataLength ≥ 7 then do
    let priority ← readU16 input offset
    let weight ← readU16 input (offset + 2)
    let port ← readU16 input (offset + 4)
    let (target, targetLength) ← decodeName input (offset + 6)
    if targetLength + 6 ≠ dataLength then .error .invalidRecordLength else .ok (.srv priority weight port target)
  else if recordType = 1 ∨ recordType = 28 ∨ recordType = 33 then .error .invalidRecordLength
  else .ok .unknown

/-- Reads records.  Answers them with the offset behind them. -/
def parseRecords (input : Bytes) : Nat → Nat → Except DiscoveryDnsError (List DiscoveryDnsRecord × Nat)
  | 0, offset => .ok ([], offset)
  | count + 1, offset => do
    let (name, consumed) ← decodeName input offset
    let offset := offset + consumed
    let recordType ← readU16 input offset
    let rawClass ← readU16 input (offset + 2)
    let ttl ← readU32 input (offset + 4)
    let dataLength ← readU16 input (offset + 8)
    let offset := offset + 10
    let dataEnd := offset + dataLength.toNat
    if dataEnd > input.length then .error .truncated
    else do
      let data ← parseRecordData input offset dataLength.toNat recordType
      let (records, offset) ← parseRecords input count dataEnd
      pure (⟨name, recordType, rawClass &&& 0x7fff, rawClass &&& 0x8000 ≠ 0, ttl, data⟩ :: records, offset)

def parseDiscoveryDnsMessage : Except DiscoveryDnsError DiscoveryDnsMessage :=
  if input.length > maxDiscoveryDnsMessageBytes then .error .messageTooLarge
  else if input.length < 12 then .error .truncated
  else do
    let id ← readU16 input 0
    let flags ← readU16 input 2
    let questionCount ← readU16 input 4
    let answerCount ← readU16 input 6
    let authorityCount ← readU16 input 8
    let additionalCount ← readU16 input 10
    if questionCount.toNat + answerCount.toNat + authorityCount.toNat + additionalCount.toNat >
      maxDiscoveryDnsRecords then
      .error .tooManyRecords
    else do
      let (questions, offset) ← parseQuestions input questionCount.toNat 12
      let (answers, offset) ← parseRecords input answerCount.toNat offset
      let (authorities, offset) ← parseRecords input authorityCount.toNat offset
      let (additionals, offset) ← parseRecords input additionalCount.toNat offset
      if offset ≠ input.length then .error .invalidRecordLength
      else pure ⟨id, flags, questions, answers, authorities, additionals⟩

/-! ### Labels -/

/-- Labels with their lengths in front, without the end of the name. -/
def labelsWire : Bytes := labels.flatMap fun label => UInt8.ofNat label.length :: label

def wireName : Bytes := labelsWire labels ++ [0]

def ValidLabel (label : Bytes) : Prop := 0 < label.length ∧ label.length ≤ 63

instance (label : Bytes) : Decidable (ValidLabel label) := inferInstanceAs (Decidable (_ ∧ _))

theorem wireName_cons (label : Bytes) (labels : List Bytes) :
    wireName (label :: labels) = UInt8.ofNat label.length :: (label ++ wireName labels) := by
  simp only [wireName, labelsWire, flatMap_cons, cons_append, append_assoc]

theorem length_lt_length_wireName : labels.length < (wireName labels).length := by
  induction labels with
  | nil => exact Nat.one_pos
  | cons label labels ih =>
    rw [wireName_cons, length_cons, length_cons, length_append]
    omega

variable {label : Bytes}

theorem toNat_ofNat_length (h : ValidLabel label) : (UInt8.ofNat label.length).toNat = label.length :=
  UInt8.toNat_ofNat_of_lt' (Nat.lt_of_le_of_lt h.2 (by decide))

theorem ofNat_length_ne_zero (h : ValidLabel label) : UInt8.ofNat label.length ≠ 0 := fun heq =>
  Nat.ne_of_gt h.1 (by rw [← toNat_ofNat_length h, heq]; rfl)

variable {labels : List Bytes}

/-- A name on the wire determines its labels. -/
theorem wireName_injective {labels' : List Bytes} (h : ∀ label ∈ labels, ValidLabel label)
    (h' : ∀ label ∈ labels', ValidLabel label) (heq : wireName labels = wireName labels') : labels = labels' := by
  induction labels generalizing labels' with
  | nil =>
    cases labels' with
    | nil => rfl
    | cons label' labels' =>
      rw [wireName_cons] at heq
      exact absurd (List.cons.inj heq).1.symm (ofNat_length_ne_zero (forall_mem_cons.1 h').1)
  | cons label labels ih =>
    rw [forall_mem_cons] at h
    rw [wireName_cons] at heq
    cases labels' with
    | nil => exact absurd (List.cons.inj heq).1 (ofNat_length_ne_zero h.1)
    | cons label' labels' =>
      rw [forall_mem_cons] at h'
      rw [wireName_cons] at heq
      obtain ⟨hlength, hrest⟩ := List.cons.inj heq
      have hlength := congrArg UInt8.toNat hlength
      rw [toNat_ofNat_length h.1, toNat_ofNat_length h'.1] at hlength
      obtain ⟨rfl, htail⟩ := append_inj hrest hlength
      rw [ih h.2 h'.2 htail]

@[simp]
theorem length_lowercase (bytes : Bytes) : (lowercase bytes).length = bytes.length := length_map _

theorem validLabel_lowercase : ValidLabel (lowercase label) ↔ ValidLabel label := by
  simp only [ValidLabel, length_lowercase]

/-- The lengths in front of the labels are no letters. -/
private theorem toAsciiLowercase_small : ∀ n < 64, toAsciiLowercase (UInt8.ofNat n) = UInt8.ofNat n := by decide

theorem toAsciiLowercase_eq_fullStop (byte : UInt8) : toAsciiLowercase byte = fullStop ↔ byte = fullStop := by
  unfold toAsciiLowercase fullStop
  grind

theorem lowercase_wireName (h : ∀ label ∈ labels, ValidLabel label) :
    lowercase (wireName labels) = wireName (labels.map lowercase) := by
  induction labels with
  | nil => rfl
  | cons label labels ih =>
    rw [forall_mem_cons] at h
    rw [map_cons, wireName_cons, wireName_cons, length_lowercase, ← ih h.2]
    simp only [lowercase, map_cons, map_append]
    rw [toAsciiLowercase_small _ (Nat.lt_succ_of_le h.1.2)]

/-! ### Decoding -/

/-- The expansion of the name at a place: its labels, the pointers that are followed on the way to its end, and the
bytes that it takes at the place itself.  A pointer may lead to any place inside the message. -/
inductive Expands (input : Bytes) : Nat → List Bytes → Nat → Nat → Prop
  | zero {cursor} (hbyte : input[cursor]? = some 0) : Expands input cursor [] 0 1
  | label {cursor labels pointers bytes} {length : UInt8} (hbyte : input[cursor]? = some length)
      (hpos : length ≠ 0) (hsmall : length.toNat ≤ 63) (hinside : cursor + 1 + length.toNat ≤ input.length)
      (hrest : Expands input (cursor + 1 + length.toNat) labels pointers bytes) :
      Expands input cursor (field input (cursor + 1) length.toNat :: labels) pointers (1 + length.toNat + bytes)
  | pointer {cursor labels pointers bytes} {high low : UInt8} (hhigh : input[cursor]? = some high)
      (hbits : high &&& 0xc0 = 0xc0) (hlow : input[cursor + 1]? = some low)
      (hrest : Expands input ((high &&& 0x3f).toNat * 256 + low.toNat) labels pointers bytes) :
      Expands input cursor labels (pointers + 1) 2

private theorem small_length_bits {length : UInt8} (h : length.toNat ≤ 63) : length &&& 0xc0 = 0 := by
  have hsmall : ∀ n < 64, UInt8.ofNat n &&& 0xc0 = 0 := by decide
  rw [← hsmall length.toNat (Nat.lt_succ_of_le h), UInt8.ofNat_toNat]

namespace Expands

variable {input : Bytes} {cursor pointers bytes : Nat}

theorem validLabel (h : Expands input cursor labels pointers bytes) : ∀ label ∈ labels, ValidLabel label := by
  induction h with
  | zero => exact forall_mem_nil _
  | label _ hpos hsmall hinside _ ih =>
    refine forall_mem_cons.2 ⟨?_, ih⟩
    rw [ValidLabel, length_field hinside]
    exact ⟨Nat.pos_of_ne_zero fun hzero => hpos (UInt8.toNat_inj.1 hzero), hsmall⟩
  | pointer _ _ _ _ ih => exact ih

theorem inside (h : Expands input cursor labels pointers bytes) : 0 < bytes ∧ cursor + bytes ≤ input.length := by
  induction h with
  | zero hbyte => exact ⟨Nat.one_pos, (List.getElem?_eq_some_iff.1 hbyte).1⟩
  | label _ _ _ _ _ ih => omega
  | pointer _ _ hlow _ _ => exact ⟨Nat.two_pos, (List.getElem?_eq_some_iff.1 hlow).1⟩

/-- A place has one expansion. -/
theorem pointers_unique {labels' : List Bytes} {pointers' bytes' : Nat}
    (h : Expands input cursor labels pointers bytes)
    (h' : Expands input cursor labels' pointers' bytes') : pointers = pointers' := by
  induction h generalizing labels' pointers' bytes' with
  | zero => cases h' <;> grind [UInt8.zero_and]
  | label => cases h' <;> grind [small_length_bits]
  | pointer => cases h' <;> grind [small_length_bits, UInt8.zero_and]

end Expands

/-- The loop of the reader without a bound on its steps. -/
inductive Loops (input : Bytes) : NameCursor → Except DiscoveryDnsError NameCursor → Prop
  | error {s error} (hstep : decodeStep input s = .error error) : Loops input s (.error error)
  | done {s s'} (hstep : decodeStep input s = .ok (s', true)) : Loops input s (.ok s')
  | next {s s' result} (hstep : decodeStep input s = .ok (s', false)) (hrest : Loops input s' result) :
      Loops input s result

variable {input : Bytes} {s s' : NameCursor} {result : Except DiscoveryDnsError NameCursor}

theorem Loops.unique {result' : Except DiscoveryDnsError NameCursor} (h : Loops input s result)
    (h' : Loops input s result') : result = result' := by
  induction h with
  | error hstep => cases h' <;> simp_all
  | done hstep => cases h' <;> simp_all
  | next hstep hrest ih => cases h' <;> grind

private theorem decodeStep_cases {done : Bool} (h : decodeStep input s = .ok (s', done)) :
    if done then input[s.cursor]? = some 0 else
      (∃ length, input[s.cursor]? = some length ∧ length ≠ 0 ∧ readLabel input s length = .ok s') ∨
        ∃ high low, input[s.cursor]? = some high ∧ high &&& 0xc0 = 0xc0 ∧ input[s.cursor + 1]? = some low ∧
          followPointer input s high low = .ok s' := by
  unfold decodeStep at h
  split at h
  · cases h
  next length hlength =>
  split at h
  · next hbits =>
    split at h
    · cases h
    next low hlow =>
    obtain ⟨_, hfollow, heq⟩ := map_eq_ok h
    cases heq
    exact Or.inr ⟨length, low, hlength, hbits, hlow, hfollow⟩
  split at h
  · cases h
  split at h
  · next hzero =>
    cases h
    exact hzero ▸ hlength
  next hpos =>
  obtain ⟨_, hread, heq⟩ := map_eq_ok h
  cases heq
  exact Or.inl ⟨length, hlength, hpos, hread⟩

/-- How many steps there can still be: each one takes bytes of the name or a pointer. -/
private def NameCursor.rank (s : NameCursor) : Nat :=
  (maxDiscoveryDnsNameBytes - s.wire.length) + (maxDiscoveryDnsPointers - s.traversals)

private theorem decodeStep_rank (h : decodeStep input s = .ok (s', false)) : s'.rank < s.rank := by
  rcases decodeStep_cases h with ⟨length, -, -, hread⟩ | ⟨high, low, -, -, -, hfollow⟩
  · simp only [readLabel, ite_error_eq_ok] at hread
    obtain ⟨-, -, hshort, heq⟩ := hread
    cases heq
    simp only [NameCursor.rank, length_append, length_cons]
    omega
  · simp only [followPointer, ite_error_eq_ok] at hfollow
    obtain ⟨-, hfew, heq⟩ := hfollow
    cases heq
    simp only [NameCursor.rank]
    omega

private theorem decodeLoop_loops {steps : Nat} (h : s.rank < steps) :
    Loops input s (decodeLoop input steps s) := by
  induction steps generalizing s with
  | zero => exact absurd h (Nat.not_lt_zero _)
  | succ steps ih =>
    rw [decodeLoop]
    split
    · next hstep => exact .error hstep
    · next hstep => exact .done hstep
    · next hstep => exact .next hstep (ih (Nat.lt_of_lt_of_le (decodeStep_rank hstep) (Nat.le_of_lt_succ h)))

/-- The loop ends, and its bound on the steps is not what ends it. -/
theorem loops_decodeLoop (input : Bytes) (start : Nat) :
    Loops input { cursor := start } (decodeLoop input maxNameSteps { cursor := start }) :=
  decodeLoop_loops (Nat.lt_succ_self 287)

/-- A loop that does not fail has followed an expansion. -/
private theorem Loops.expands (h : Loops input s (.ok s')) (hshort : s.wire.length + 1 ≤ maxDiscoveryDnsNameBytes)
    (hfew : s.traversals ≤ maxDiscoveryDnsPointers) : ∃ labels pointers bytes,
      Expands input s.cursor labels pointers bytes ∧ s.traversals + pointers ≤ maxDiscoveryDnsPointers ∧
        s.wire.length + (wireName labels).length ≤ maxDiscoveryDnsNameBytes := by
  generalize hresult : Except.ok s' = result at h
  induction h with
  | error => cases hresult
  | done hstep => exact ⟨[], 0, 1, .zero (decodeStep_cases hstep), hfew, hshort⟩
  | next hstep _ ih =>
    rcases decodeStep_cases hstep with ⟨length, hbyte, hpos, hread⟩ | ⟨high, low, hhigh, hbits, hlow, hfollow⟩
    · simp only [readLabel, ite_error_eq_ok] at hread
      obtain ⟨hsmall, hinside, hlong, heq⟩ := hread
      cases heq
      have hlength := length_field (Nat.le_of_not_lt hinside)
      simp only [length_append, length_cons, length_lowercase, hlength] at ih
      obtain ⟨labels, pointers, bytes, hexpands, hpointers, htotal⟩ := ih (by omega) hfew hresult
      refine ⟨_, pointers, _, .label hbyte hpos (Nat.le_of_not_lt hsmall) (Nat.le_of_not_lt hinside) hexpands,
        hpointers, ?_⟩
      rw [wireName_cons, length_cons, length_append, hlength]
      omega
    · simp only [followPointer, ite_error_eq_ok] at hfollow
      obtain ⟨-, hfew', heq⟩ := hfollow
      cases heq
      obtain ⟨labels, pointers, bytes, hexpands, hpointers, htotal⟩ := ih hshort (Nat.le_of_not_lt hfew') hresult
      refine ⟨labels, pointers + 1, 2, .pointer hhigh hbits hlow hexpands, ?_, htotal⟩
      simp only at hpointers
      omega

/-- What reading the rest of a name adds to what has been read. -/
private structure NameCursor.Reads (s s' : NameCursor) (labels : List Bytes) (bytes : Nat) : Prop where
  wire : s'.wire = s.wire ++ wireName (labels.map lowercase)
  consumed : s'.consumed = s.consume bytes
  allText : s'.allText = (s.allText && labels.all validUtf8)
  textLabels : s'.allText = true → s'.textLabels = s.textLabels ++ labels

/-- An expansion is followed to its end.  No place is visited twice, since fewer pointers are left each time. -/
private theorem Expands.loops {pointers bytes cursor : Nat} (h : Expands input cursor labels pointers bytes)
    (hcursor : s.cursor = cursor) (hpointers : s.traversals + pointers ≤ maxDiscoveryDnsPointers)
    (hshort : s.wire.length + (wireName labels).length ≤ maxDiscoveryDnsNameBytes)
    (hvisited : ∀ target ∈ s.visited, ∀ {labels' pointers' bytes'},
      Expands input target labels' pointers' bytes' → pointers ≤ pointers') :
    ∃ s', Loops input s (.ok s') ∧ s.Reads s' labels bytes := by
  induction h generalizing s with
  | zero hbyte =>
    have hstep : decodeStep input s = .ok ({ s with wire := s.wire ++ [0], consumed := s.consume 1 }, true) := by
      simp only [decodeStep, hcursor, hbyte]
      rfl
    exact ⟨_, .done hstep, rfl, rfl, (Bool.and_true _).symm, fun _ => (append_nil _).symm⟩
  | @label cursor labels pointers bytes length hbyte hpos hsmall hinside _ ih =>
    have hlast := length_lt_length_wireName labels
    have hlength := length_field hinside
    rw [wireName_cons, length_cons, length_append, hlength] at hshort
    subst hcursor
    obtain ⟨next, hread⟩ : ∃ next, readLabel input s length = .ok next := by
      simp only [readLabel, ite_error_eq_ok, exists_and_left]
      exact ⟨Nat.not_lt.2 hsmall, Nat.not_lt.2 hinside, by omega, _, rfl⟩
    have hstep : decodeStep input s = .ok (next, false) := by
      simp only [decodeStep, hbyte, small_length_bits hsmall, hread]
      rw [if_neg (by decide), if_neg (by decide), if_neg hpos]
      rfl
    simp only [readLabel, ite_error_eq_ok] at hread
    obtain ⟨-, -, -, heq⟩ := hread
    obtain ⟨s', hloops, hreads⟩ : ∃ s', Loops input next (.ok s') ∧ next.Reads s' labels bytes := by
      cases heq
      refine ih rfl hpointers ?_ hvisited
      simp only [length_append, length_cons, length_lowercase, hlength]
      omega
    cases heq
    refine ⟨s', .next hstep hloops, ?_, ?_, ?_, ?_⟩
    · rw [hreads.wire, map_cons, wireName_cons, length_lowercase, hlength, UInt8.ofNat_toNat, append_assoc,
        cons_append]
    · rw [hreads.consumed]
      simp only [NameCursor.consume]
      split
      · rfl
      · exact Nat.add_assoc ..
    · rw [hreads.allText, all_cons, Bool.and_assoc]
    · intro hall
      have hprev := hall
      rw [hreads.allText, Bool.and_eq_true_iff] at hprev
      simp only [hreads.textLabels hall, if_pos hprev.1, append_assoc, singleton_append]
  | @pointer cursor labels pointers bytes high low hhigh hbits hlow hrest ih =>
    subst hcursor
    obtain ⟨next, hfollow⟩ : ∃ next, followPointer input s high low = .ok next := by
      simp only [followPointer, ite_error_eq_ok, exists_and_left, not_or]
      have hinside := hrest.inside
      exact ⟨⟨by omega, fun hmem => Nat.not_succ_le_self _ (hvisited _ hmem hrest)⟩, by omega, _, rfl⟩
    have hstep : decodeStep input s = .ok (next, false) := by
      simp only [decodeStep, hhigh, hbits, hlow, hfollow, if_true]
      rfl
    simp only [followPointer, ite_error_eq_ok] at hfollow
    obtain ⟨-, -, heq⟩ := hfollow
    obtain ⟨s', hloops, hreads⟩ : ∃ s', Loops input next (.ok s') ∧ next.Reads s' labels bytes := by
      cases heq
      refine ih rfl (by simp only; omega) hshort fun target hmem _ _ _ hbefore => ?_
      rcases mem_append.1 hmem with hold | hnew
      · exact Nat.le_of_succ_le (hvisited target hold hbefore)
      · exact (hrest.pointers_unique (mem_singleton.1 hnew ▸ hbefore)).le
    cases heq
    exact ⟨s', .next hstep hloops, hreads.wire, hreads.consumed, hreads.allText, hreads.textLabels⟩

/-- The name with some labels: in lower case, and as text if all of them are. -/
def expandedName (labels : List Bytes) : DiscoveryDnsName :=
  ⟨lowercase (wireName labels), if labels.all validUtf8 then some (presentation labels) else none⟩

private theorem Expands.decodeName {start pointers bytes : Nat} (h : Expands input start labels pointers bytes)
    (hpointers : pointers ≤ maxDiscoveryDnsPointers)
    (hshort : (wireName labels).length ≤ maxDiscoveryDnsNameBytes) :
    decodeName input start = .ok (expandedName labels, bytes) := by
  rw [← Nat.zero_add pointers] at hpointers
  rw [← Nat.zero_add (wireName labels).length] at hshort
  obtain ⟨s, hloops, hwire, hconsumed, hall, htext⟩ := h.loops (s := { cursor := start }) rfl hpointers hshort
    (forall_mem_nil _)
  have hinside := h.inside
  rw [Discovery.decodeName, if_neg (by omega), (loops_decodeLoop input start).unique hloops, expandedName,
    lowercase_wireName h.validLabel]
  simp only [nil_append, NameCursor.consume, Bool.false_eq_true, if_false, Nat.zero_add, Bool.true_and] at *
  simp only [hwire, hconsumed, ← hall]
  split
  · next hyes => rw [htext hyes]
  · rfl

/-- A name is decoded exactly if it has an expansion with few pointers and few bytes. -/
theorem decodeName_eq_ok_iff {start consumed : Nat} {name : DiscoveryDnsName} :
    decodeName input start = .ok (name, consumed) ↔ ∃ labels pointers,
    Expands input start labels pointers consumed ∧
      pointers ≤ maxDiscoveryDnsPointers ∧ (wireName labels).length ≤ maxDiscoveryDnsNameBytes ∧
      name = expandedName labels := by
  constructor
  · intro h
    have hdecode := h
    unfold decodeName at h
    split at h
    · cases h
    split at h
    · cases h
    next s hloop =>
    have hloops := loops_decodeLoop input start
    rw [hloop] at hloops
    obtain ⟨labels, pointers, bytes, hexpands, hpointers, hshort⟩ :=
      hloops.expands (Nat.le_add_left 1 254) (Nat.zero_le 32)
    simp only [length_nil, Nat.zero_add] at hpointers hshort
    rw [hexpands.decodeName hpointers hshort] at hdecode
    cases hdecode
    exact ⟨labels, pointers, hexpands, hpointers, hshort, rfl⟩
  · rintro ⟨labels, pointers, hexpands, hpointers, hshort, rfl⟩
    exact hexpands.decodeName hpointers hshort

/-! ### Encoding -/

/-- The labels of a text. -/
def labelsOfText (text : Bytes) : List Bytes :=
  if stripFullStop text = [] then [] else (stripFullStop text).splitOn fullStop

theorem encodeLabels_eq : encodeLabels labels =
    if ∀ label ∈ labels, ValidLabel label then .ok (labelsWire labels) else .error .invalidLabel := by
  induction labels with
  | nil => rfl
  | cons label labels ih =>
    have hlabel : ValidLabel label ↔ ¬ (label = [] ∨ label.length > 63) := by
      rw [ValidLabel, length_pos_iff, not_or, Nat.not_lt]
    rw [encodeLabels, ih]
    simp only [forall_mem_cons, hlabel]
    split
    · next hbad => rw [if_neg fun h => h.1 hbad]
    next hgood =>
    split
    · next hvalid => rw [if_pos ⟨hgood, hvalid⟩, Except.map]; rfl
    · next hvalid => rw [if_neg fun h => hvalid h.2, Except.map]

/-- A text is encoded exactly if the labels between its full stops can be written and are not too long together. -/
theorem encodeName_eq_ok_iff {text output : Bytes} :
    encodeName text = .ok output ↔ (∀ label ∈ labelsOfText text, ValidLabel label) ∧
      (wireName (labelsOfText text)).length ≤ maxDiscoveryDnsNameBytes ∧
        output = wireName (labelsOfText text) := by
  unfold encodeName labelsOfText
  split
  · rw [Except.ok.injEq]
    exact ⟨fun h => ⟨forall_mem_nil _, by decide, h.symm⟩, fun h => h.2.2.symm⟩
  rw [encodeLabels_eq]
  by_cases hvalid : ∀ label ∈ (stripFullStop text).splitOn fullStop, ValidLabel label
  · simp only [if_pos hvalid, ite_error_eq_ok, Nat.not_lt, Except.ok.injEq]
    exact ⟨fun h => ⟨hvalid, h.1, h.2.symm⟩, fun h => ⟨h.2.1, h.2.2.symm⟩⟩
  · simp only [if_neg hvalid]
    exact iff_of_false (by simp) fun h => hvalid h.1

/-- Cutting at full stops leaves none. -/
theorem fullStop_not_mem_splitOn {text : Bytes} (h : label ∈ text.splitOn fullStop) : fullStop ∉ label := by
  induction text generalizing label with
  | nil =>
    rw [splitOn_nil, mem_singleton] at h
    exact h ▸ not_mem_nil
  | cons byte text ih =>
    obtain ⟨first, rest, hsplit⟩ := exists_cons_of_ne_nil (splitOn_ne_nil fullStop text)
    rw [splitOn_cons_eq_if_modifyHead, hsplit] at h
    rw [hsplit] at ih
    split at h
    · rcases mem_cons.1 h with rfl | hrest
      · exact not_mem_nil
      · exact ih hrest
    next hbyte =>
    rcases mem_cons.1 h with rfl | hrest
    · rw [mem_cons, not_or]
      exact ⟨fun heq => hbyte (beq_iff_eq.2 heq.symm), ih (mem_cons_self ..)⟩
    · exact ih (mem_cons_of_mem _ hrest)

/-- The text of labels is cut at all of its full stops, those inside the labels included. -/
theorem labelsOfText_presentation (hvalid : ∀ label ∈ labels, ValidLabel label) :
    labelsOfText (presentation labels) =
      if labels = [] then [] else ([fullStop].intercalate labels).splitOn fullStop := by
  unfold labelsOfText presentation
  by_cases hnil : labels = []
  · rw [if_pos hnil, if_pos hnil]
    rfl
  have hstrip : stripFullStop ([fullStop].intercalate labels ++ [fullStop]) = [fullStop].intercalate labels := by
    rw [stripFullStop, getLast?_append, getLast?_singleton, Option.some_or, if_pos rfl, dropLast_concat]
  rw [if_neg hnil, if_neg hnil, hstrip, if_neg]
  -- a first label has a first byte
  cases labels with
  | nil => exact absurd rfl hnil
  | cons label labels =>
    have hne := length_pos_iff.1 (hvalid label (mem_cons_self ..)).1
    cases labels <;> simp [List.intercalate, hne]

theorem fullStop_mem_lowercase : fullStop ∈ lowercase label ↔ fullStop ∈ label := by
  rw [lowercase, mem_map]
  constructor
  · rintro ⟨byte, hmem, heq⟩
    rwa [← (toAsciiLowercase_eq_fullStop byte).1 heq]
  · exact fun hmem => ⟨fullStop, hmem, (toAsciiLowercase_eq_fullStop fullStop).2 rfl⟩

/-- The text of labels encodes to their bytes exactly if there is no full stop in a label. -/
theorem encodeName_presentation (hvalid : ∀ label ∈ labels, ValidLabel label)
    (hshort : (wireName labels).length ≤ maxDiscoveryDnsNameBytes) :
    (∃ output, encodeName (presentation labels) = .ok output ∧
      lowercase output = wireName (labels.map lowercase)) ↔ ∀ label ∈ labels, fullStop ∉ label := by
  constructor
  · rintro ⟨output, hencode, hlower⟩
    obtain ⟨hvalid', -, rfl⟩ := encodeName_eq_ok_iff.1 hencode
    rw [lowercase_wireName hvalid'] at hlower
    have hsame := wireName_injective
      (forall_mem_map.2 fun label hmem => validLabel_lowercase.2 (hvalid' label hmem))
      (forall_mem_map.2 fun label hmem => validLabel_lowercase.2 (hvalid label hmem)) hlower
    intro label hlabel hstop
    have hmem : lowercase label ∈ (labelsOfText (presentation labels)).map lowercase := by
      rw [hsame]
      exact mem_map_of_mem hlabel
    obtain ⟨piece, hpiece, heq⟩ := mem_map.1 hmem
    rw [labelsOfText_presentation hvalid, if_neg (ne_nil_of_mem hlabel)] at hpiece
    exact fullStop_not_mem_splitOn hpiece (fullStop_mem_lowercase.1 (heq ▸ fullStop_mem_lowercase.2 hstop))
  intro hstops
  have hlabels : labelsOfText (presentation labels) = labels := by
    rw [labelsOfText_presentation hvalid]
    by_cases hnil : labels = []
    · rw [if_pos hnil, hnil]
    · rw [if_neg hnil, splitOn_intercalate fullStop hstops hnil]
  refine ⟨wireName labels, encodeName_eq_ok_iff.2 ?_, lowercase_wireName hvalid⟩
  rw [hlabels]
  exact ⟨hvalid, hshort, rfl⟩

/-! ### Reading back what was built -/

private theorem getElem?_of_drop {tail : Bytes} {cursor : Nat} {byte : UInt8}
    (h : input.drop cursor = byte :: tail) : input[cursor]? = some byte := by
  have hhead : (input.drop cursor)[0]? = some byte := by rw [h]; rfl
  rwa [getElem?_drop] at hhead

variable {rest : Bytes}

/-- A name on the wire is its own expansion. -/
theorem expands_wireName {cursor : Nat} (hvalid : ∀ label ∈ labels, ValidLabel label)
    (hinput : input.drop cursor = wireName labels ++ rest) :
    Expands input cursor labels 0 (wireName labels).length := by
  induction labels generalizing cursor with
  | nil => exact .zero (getElem?_of_drop hinput)
  | cons label labels ih =>
    rw [forall_mem_cons] at hvalid
    rw [wireName_cons, cons_append, append_assoc] at hinput
    have hsize := congrArg List.length hinput
    simp only [length_drop, length_cons, length_append] at hsize
    have hdrop : input.drop (cursor + 1) = label ++ (wireName labels ++ rest) := by
      rw [← drop_drop, hinput]
      rfl
    have hfield : field input (cursor + 1) label.length = label := by rw [field, hdrop, take_left]
    have hlength := toNat_ofNat_length hvalid.1
    have hnext : input.drop (cursor + 1 + label.length) = wireName labels ++ rest := by
      rw [← drop_drop, hdrop, drop_left]
    have hexpands := Expands.label (getElem?_of_drop hinput) (ofNat_length_ne_zero hvalid.1)
      (hlength.trans_le hvalid.1.2) (by omega) (hlength.symm ▸ ih hvalid.2 hnext)
    rw [hlength, hfield, Nat.add_comm 1] at hexpands
    rwa [wireName_cons, length_cons, length_append, Nat.add_right_comm]

private theorem readU16_of_drop {offset : Nat} {n : UInt16} (h : input.drop offset = be16 n ++ rest) :
    readU16 input offset = .ok n := by
  have hlength := congrArg List.length h
  simp only [length_drop, length_append, be16_length] at hlength
  have hfield : field input offset 2 = be16 n := by
    rw [field, h]
    exact take_left' (be16_length n)
  rw [readU16, if_pos (by omega), u16At, hfield, ofNat_beValue_be16]

section

variable {id queryType rawClass : UInt16} (hvalid : ∀ label ∈ labels, ValidLabel label)
  (hshort : (wireName labels).length ≤ maxDiscoveryDnsNameBytes)
  (hinput : input = be16 id ++ be16 0 ++ be16 1 ++ be16 0 ++ be16 0 ++ be16 0 ++ wireName labels ++
    be16 queryType ++ be16 rawClass)
include hinput

private theorem length_query : input.length = 12 + (wireName labels).length + 4 := by
  simp only [hinput, length_append, be16_length]

include hvalid hshort

private theorem parseQuestions_query : parseQuestions input 1 12 =
    .ok ([⟨expandedName labels, queryType, rawClass &&& 0x7fff, rawClass &&& 0x8000 ≠ 0⟩], input.length) := by
  have hname : input.drop 12 = wireName labels ++ (be16 queryType ++ be16 rawClass) := by
    simp only [hinput, append_assoc]
    rfl
  have htype : input.drop (12 + (wireName labels).length) = be16 queryType ++ be16 rawClass := by
    rw [← drop_drop, hname, drop_left]
  have hclass : input.drop (12 + (wireName labels).length + 2) = be16 rawClass ++ [] := by
    rw [← drop_drop, htype, append_nil]
    exact drop_left' (be16_length queryType)
  simp only [parseQuestions, (expands_wireName hvalid hname).decodeName (Nat.zero_le _) hshort,
    readU16_of_drop htype, readU16_of_drop hclass, length_query hinput, bind, Except.bind, pure, Except.pure]

private theorem parse_query : parseDiscoveryDnsMessage input =
    .ok ⟨id, 0, [⟨expandedName labels, queryType, rawClass &&& 0x7fff, rawClass &&& 0x8000 ≠ 0⟩], [], [], []⟩ := by
  have hquestions := parseQuestions_query hvalid hshort hinput
  have hlength := length_query hinput
  have hbound : maxDiscoveryDnsNameBytes = 255 := rfl
  have hmessage : maxDiscoveryDnsMessageBytes = 9000 := rfl
  have hheader : ∀ offset n rest, input.drop offset = be16 n ++ rest → readU16 input offset = .ok n :=
    fun _ _ _ => readU16_of_drop
  subst hinput
  rw [parseDiscoveryDnsMessage, if_neg (by omega), if_neg (by omega), hheader 0 id _ rfl, hheader 2 0 _ rfl,
    hheader 4 1 _ rfl, hheader 6 0 _ rfl, hheader 8 0 _ rfl, hheader 10 0 _ rfl]
  simp only [bind, Except.bind]
  rw [if_neg (by decide)]
  have hone : (1 : UInt16).toNat = 1 := rfl
  have hzero : (0 : UInt16).toNat = 0 := rfl
  simp only [hone, hzero, hquestions, parseRecords, ne_eq, not_true_eq_false, if_false, pure, Except.pure]

end

section

variable {id queryType : UInt16} {name : Bytes} {requestsUnicast : Bool}

/-- A query about a name that can be encoded is built, and has one question, with the name in lower case. -/
theorem parse_build_encoded {encoded : Bytes} (hencode : encodeName name = .ok encoded) :
    ∃ bytes text, buildDiscoveryDnsQuery id name queryType requestsUnicast = .ok bytes ∧
      parseDiscoveryDnsMessage bytes =
        .ok ⟨id, 0, [⟨⟨lowercase encoded, text⟩, queryType, 1, requestsUnicast⟩], [], [], []⟩ := by
  obtain ⟨hvalid, hshort, rfl⟩ := encodeName_eq_ok_iff.1 hencode
  have hbound : maxDiscoveryDnsNameBytes = 255 := rfl
  rw [buildDiscoveryDnsQuery, hencode]
  simp only
  rw [if_neg (by omega)]
  refine ⟨_, (expandedName (labelsOfText name)).text, rfl, ?_⟩
  rw [parse_query hvalid hshort rfl]
  cases requestsUnicast <;> rfl

/-- A query that was built has one question, with its name in lower case. -/
theorem parse_build {bytes : Bytes}
    (hbuild : buildDiscoveryDnsQuery id name queryType requestsUnicast = .ok bytes) :
    ∃ encoded text, encodeName name = .ok encoded ∧ parseDiscoveryDnsMessage bytes =
      .ok ⟨id, 0, [⟨⟨lowercase encoded, text⟩, queryType, 1, requestsUnicast⟩], [], [], []⟩ := by
  cases hencode : encodeName name with
  | error error => rw [buildDiscoveryDnsQuery, hencode] at hbuild; cases hbuild
  | ok encoded =>
    obtain ⟨bytes', text, hbuild', hparse⟩ := parse_build_encoded hencode
    rw [hbuild] at hbuild'
    cases hbuild'
    exact ⟨encoded, text, rfl, hparse⟩

end

/-- Reading a name ends, and succeeds exactly on an expansion with few pointers and few bytes; and a query about
any name that can be encoded reads back. -/
theorem decodeName_expansion (input : Bytes) (start : Nat) :
    Loops input { cursor := start } (decodeLoop input maxNameSteps { cursor := start }) ∧
    (∀ name consumed, decodeName input start = .ok (name, consumed) ↔ ∃ labels pointers,
      Expands input start labels pointers consumed ∧ pointers ≤ maxDiscoveryDnsPointers ∧
        (wireName labels).length ≤ maxDiscoveryDnsNameBytes ∧ name = expandedName labels) ∧
    (∀ name consumed, decodeName input start = .ok (name, consumed) → start + consumed ≤ input.length) ∧
    ∀ id queryType requestsUnicast name encoded, encodeName name = .ok encoded →
      ∃ bytes text, buildDiscoveryDnsQuery id name queryType requestsUnicast = .ok bytes ∧
        parseDiscoveryDnsMessage bytes =
          .ok ⟨id, 0, [⟨⟨lowercase encoded, text⟩, queryType, 1, requestsUnicast⟩], [], [], []⟩ := by
  refine ⟨loops_decodeLoop input start, fun _ _ => decodeName_eq_ok_iff, fun name consumed h => ?_,
    fun _ _ _ _ _ => parse_build_encoded⟩
  obtain ⟨labels, pointers, hexpands, -⟩ := decodeName_eq_ok_iff.1 h
  exact hexpands.inside.2

end NodeNet.Discovery
