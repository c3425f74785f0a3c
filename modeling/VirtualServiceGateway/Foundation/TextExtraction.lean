import Mathlib.Data.List.TakeWhile
import Mathlib.Data.Nat.Digits.Lemmas
import Mathlib.Data.UInt

/-!
# Formatted extraction from text

Extraction from a character stream in the classic locale, the text being a list of bytes: every
extraction skips blanks and takes what it can from the front, and the next one starts where it
stopped. An unsigned number is an optional sign and a run of decimal digits; a word is a run of
bytes other than blanks; a byte is the next byte that is not blank. Printing in decimal is undone
by extracting a number.
-/

namespace VirtualServiceGateway.TextExtraction

/-- The bytes of a line of text. -/
abbrev Text := List UInt8

/-- The bytes of a string of ASCII characters. -/
def ascii (characters : String) : Text :=
  characters.toList.map fun character ↦ UInt8.ofNat character.toNat

def space : UInt8 := 32
def newline : UInt8 := 10
def plus : UInt8 := 43
def minus : UInt8 := 45
def zero : UInt8 := 48

/-- Blank in the classic locale: tab, the line separators, and space. -/
def isSpace (byte : UInt8) : Bool := byte = space || (9 ≤ byte && byte ≤ 13)

def isDigit (byte : UInt8) : Bool := 48 ≤ byte && byte ≤ 57

def skipSpace (text : Text) : Text := text.dropWhile isSpace

/-- Extraction of a byte: the next byte that is not blank. -/
def extractByte (text : Text) : Option (UInt8 × Text) :=
  match skipSpace text with
  | [] => none
  | byte :: rest => some (byte, rest)

/-- Extraction of a word: the next run of bytes that are not blank. -/
def extractWord (text : Text) : Option (Text × Text) :=
  match (skipSpace text).takeWhile fun byte ↦ !isSpace byte with
  | [] => none
  | word => some (word, (skipSpace text).dropWhile fun byte ↦ !isSpace byte)

/-- An optional sign, and the text after it. -/
def takeSign : Text → Bool × Text
  | [] => (false, [])
  | byte :: rest =>
      if byte = minus then (true, rest) else if byte = plus then (false, rest)
      else (false, byte :: rest)

/-- The value of a run of decimal digits. -/
def decimalValue (digits : Text) : ℕ :=
  Nat.ofDigits 10 (digits.reverse.map fun digit ↦ digit.toNat - zero.toNat)

/-- Extraction of an unsigned number below `2 ^ width`. A number out of range fails; a minus sign
negates modulo `2 ^ width`. -/
def extractUnsigned (width : ℕ) (text : Text) : Option (ℕ × Text) :=
  let (negative, digitsOn) := takeSign (skipSpace text)
  match digitsOn.takeWhile isDigit with
  | [] => none
  | digits =>
      let value := decimalValue digits
      if 2 ^ width ≤ value then none
      else some (if negative then (2 ^ width - value) % 2 ^ width else value,
        digitsOn.dropWhile isDigit)

/-- A number in decimal. -/
def decimal (value : ℕ) : Text :=
  match Nat.digits 10 value with
  | [] => [zero]
  | digits => digits.reverse.map fun digit ↦ zero + UInt8.ofNat digit

/-- The lines of a text. A newline ends a line; the last line may lack it. -/
def getlines : Text → List Text
  | [] => []
  | byte :: rest =>
      if byte = newline then [] :: getlines rest
      else match getlines rest with
        | [] => [[byte]]
        | line :: lines => (byte :: line) :: lines

def backslash : UInt8 := 92
def letterX : UInt8 := 120

/-- The value of a hexadecimal digit of either case. -/
def hexValue (digit : UInt8) : Option ℕ :=
  if isDigit digit then some (digit.toNat - 48)
  else if 97 ≤ digit && digit ≤ 102 then some (digit.toNat - 87)
  else if 65 ≤ digit && digit ≤ 70 then some (digit.toNat - 55)
  else none

def isHexDigit (byte : UInt8) : Bool := (hexValue byte).isSome

/-- The value of a run of hexadecimal digits. -/
def hexadecimalValue (digits : Text) : ℕ :=
  Nat.ofDigits 16 (digits.reverse.map fun digit ↦ (hexValue digit).getD 0)

def capitalX : UInt8 := 88

/-- Drop a zero and an x in front of hexadecimal digits. -/
def dropHexMark : Text → Text
  | first :: second :: rest =>
      if first = zero ∧ (second = letterX ∨ second = capitalX) then rest
      else first :: second :: rest
  | text => text

/-- `strtoul` in base 16: it reads what it can, an empty run being zero. A number out of range
saturates; a minus sign negates modulo `2 ^ 64`. -/
def strtoul16 (text : Text) : UInt64 :=
  let (negative, number) := takeSign (skipSpace text)
  let value := hexadecimalValue ((dropHexMark number).takeWhile isHexDigit)
  if 2 ^ 64 ≤ value then UInt64.ofNat (2 ^ 64 - 1)
  else if negative then -UInt64.ofNat value
  else UInt64.ofNat value

/-- The text writes the number in hexadecimal, in digits of either case and with or without a mark
in front of them. -/
def HexNumber (text : Text) (value : ℕ) : Prop :=
  ∃ digits, (text = digits ∨ text = zero :: letterX :: digits ∨ text = zero :: capitalX :: digits) ∧
    digits ≠ [] ∧ (∀ digit ∈ digits, isHexDigit digit) ∧ hexadecimalValue digits = value

/-- The text writes each byte as a backslash, an x and two hexadecimal digits. -/
inductive Escapes : List UInt8 → Text → Prop
  | nil : Escapes [] []
  | cons {byte high low : UInt8} {highValue lowValue : ℕ} {bytes : List UInt8} {text : Text}
      (hhigh : hexValue high = some highValue) (hlow : hexValue low = some lowValue)
      (hbyte : byte.toNat = 16 * highValue + lowValue) (hrest : Escapes bytes text) :
      Escapes (byte :: bytes) (backslash :: letterX :: high :: low :: text)

/-! ## Digits -/

theorem isDigit_iff (byte : UInt8) : isDigit byte ↔ 48 ≤ byte.toNat ∧ byte.toNat ≤ 57 := by
  simp [isDigit, UInt8.le_iff_toNat_le]

theorem not_isSpace_of_isDigit {byte : UInt8} (h : isDigit byte) : isSpace byte = false := by
  rw [isDigit_iff] at h
  simp only [isSpace, space, Bool.or_eq_false_iff, decide_eq_false_iff_not, Bool.and_eq_false_iff,
    UInt8.le_iff_toNat_le, ← UInt8.toNat_inj, UInt8.reduceToNat]
  omega

theorem toNat_zero_add {digit : ℕ} (h : digit < 10) :
    (zero + UInt8.ofNat digit).toNat = 48 + digit := by
  rw [UInt8.toNat_add, UInt8.toNat_ofNat', Nat.mod_eq_of_lt (a := digit) (by omega)]
  exact Nat.mod_eq_of_lt (by simp [zero]; omega)

/-- A printed number consists of digits. -/
theorem isDigit_of_mem_decimal {value : ℕ} {byte : UInt8} (h : byte ∈ decimal value) :
    isDigit byte := by
  unfold decimal at h
  split at h
  case h_1 =>
    rw [List.mem_singleton.mp h]
    decide
  case h_2 =>
    obtain ⟨digit, hdigit, rfl⟩ := List.mem_map.mp h
    have hlt := Nat.digits_lt_base (by omega) (List.mem_reverse.mp hdigit)
    rw [isDigit_iff, toNat_zero_add hlt]
    omega

theorem decimal_ne_nil (value : ℕ) : decimal value ≠ [] := by
  unfold decimal
  split
  case h_1 => simp
  case h_2 digits hdigits =>
    intro h
    simp only [List.map_eq_nil_iff, List.reverse_eq_nil_iff] at h
    exact hdigits h

/-- The digits of a printed number have the number as their value. -/
theorem decimalValue_decimal (value : ℕ) : decimalValue (decimal value) = value := by
  have hvalue := Nat.ofDigits_digits 10 value
  have hdigits : ∀ digit ∈ Nat.digits 10 value, digit < 10 :=
    fun digit hdigit ↦ Nat.digits_lt_base (by omega) hdigit
  unfold decimalValue decimal
  generalize Nat.digits 10 value = digits at hvalue hdigits
  subst hvalue
  split
  case h_1 => rfl
  case h_2 =>
    rw [← List.map_reverse, List.reverse_reverse, List.map_map]
    congr 1
    conv_rhs => rw [← List.map_id digits]
    apply List.map_congr_left
    intro digit hdigit
    rw [Function.comp_apply, toNat_zero_add (hdigits digit hdigit)]
    simp [zero]

/-! ## What one extraction takes -/

theorem skipSpace_of_not_isSpace {byte : UInt8} (h : isSpace byte = false) (rest : Text) :
    skipSpace (byte :: rest) = byte :: rest := by
  simp [skipSpace, h]

/-- A run that stops at a blank or at the end of the text. -/
def StopsAt (select : UInt8 → Bool) (rest : Text) : Prop := ∀ byte ∈ rest.head?, select byte = false

theorem takeWhile_append {select : UInt8 → Bool} {front rest : Text}
    (hfront : ∀ byte ∈ front, select byte) (hrest : StopsAt select rest) :
    (front ++ rest).takeWhile select = front := by
  rw [List.takeWhile_append_of_pos hfront]
  cases rest with
  | nil => simp
  | cons byte rest => simp [hrest byte rfl]

theorem dropWhile_append {select : UInt8 → Bool} {front rest : Text}
    (hfront : ∀ byte ∈ front, select byte) (hrest : StopsAt select rest) :
    (front ++ rest).dropWhile select = rest := by
  rw [List.dropWhile_append_of_pos hfront]
  cases rest with
  | nil => rfl
  | cons byte rest => simp [hrest byte rfl]

/-- **Decimal round trip.** Extraction takes a printed number back and stops right after it. -/
theorem extractUnsigned_decimal {width value : ℕ} (hvalue : value < 2 ^ width) {rest : Text}
    (hrest : StopsAt isDigit rest) :
    extractUnsigned width (decimal value ++ rest) = some (value, rest) := by
  have hdigits : ∀ byte ∈ decimal value, isDigit byte := fun byte h ↦ isDigit_of_mem_decimal h
  have htake := takeWhile_append hdigits hrest
  have hdrop := dropWhile_append hdigits hrest
  have hround := decimalValue_decimal value
  obtain ⟨first, others, hdecimal⟩ := List.exists_cons_of_ne_nil (decimal_ne_nil value)
  have hfirst : isDigit first := hdigits first (by simp [hdecimal])
  have hbounds := (isDigit_iff first).mp hfirst
  have hminus : first ≠ minus := by
    rintro rfl
    simp [minus] at hbounds
  have hplus : first ≠ plus := by
    rintro rfl
    simp [plus] at hbounds
  rw [hdecimal] at htake hdrop hround ⊢
  rw [List.cons_append] at htake hdrop ⊢
  simp only [extractUnsigned, skipSpace_of_not_isSpace (not_isSpace_of_isDigit hfirst), takeSign,
    hminus, hplus, if_false, htake, hdrop, hround, Nat.not_le.mpr hvalue, Bool.false_eq_true]

theorem extractUnsigned_space (width : ℕ) (text : Text) :
    extractUnsigned width (space :: text) = extractUnsigned width text := rfl

theorem extractByte_space (text : Text) : extractByte (space :: text) = extractByte text := rfl

theorem extractByte_of_not_isSpace {byte : UInt8} (h : isSpace byte = false) (rest : Text) :
    extractByte (byte :: rest) = some (byte, rest) := by
  simp [extractByte, skipSpace_of_not_isSpace h]

theorem extractWord_space (text : Text) : extractWord (space :: text) = extractWord text := rfl

/-- **Word round trip.** Extraction takes a whole word and stops at the blank after it. -/
theorem extractWord_append {word rest : Text} (hne : word ≠ [])
    (hword : ∀ byte ∈ word, isSpace byte = false)
    (hrest : StopsAt (fun byte ↦ !isSpace byte) rest) :
    extractWord (word ++ rest) = some (word, rest) := by
  have hselect : ∀ byte ∈ word, !isSpace byte := fun byte h ↦ by simp [hword byte h]
  have htake := takeWhile_append hselect hrest
  have hdrop := dropWhile_append hselect hrest
  obtain ⟨first, others, rfl⟩ := List.exists_cons_of_ne_nil hne
  have hfirst := hword first List.mem_cons_self
  rw [List.cons_append] at htake hdrop ⊢
  simp only [extractWord, skipSpace_of_not_isSpace hfirst, htake, hdrop]

/-- A number does not start with a byte that is neither blank nor sign nor digit. -/
theorem extractUnsigned_eq_none {byte : UInt8} (hspace : isSpace byte = false)
    (hminus : byte ≠ minus) (hplus : byte ≠ plus) (hdigit : isDigit byte = false) (width : ℕ)
    (rest : Text) : extractUnsigned width (byte :: rest) = none := by
  have hnone : (byte :: rest).takeWhile isDigit = [] :=
    List.takeWhile_cons_of_neg (by rw [hdigit]; exact Bool.false_ne_true)
  simp only [extractUnsigned, skipSpace_of_not_isSpace hspace, takeSign, if_neg hminus,
    if_neg hplus, hnone]

/-! ## What an extraction returns -/

/-- What is left after skipping blanks begins with a byte that is not blank. -/
theorem not_isSpace_of_skipSpace {text rest : Text} {byte : UInt8}
    (h : skipSpace text = byte :: rest) : isSpace byte = false := by
  have hne : text.dropWhile isSpace ≠ [] := by
    rw [← skipSpace, h]
    exact List.cons_ne_nil _ _
  have hhead := List.head_dropWhile_not isSpace hne
  have hbyte : (text.dropWhile isSpace).head hne = byte := by
    have hcons : text.dropWhile isSpace = byte :: rest := h
    simp only [hcons, List.head_cons]
  rwa [hbyte] at hhead

theorem not_isSpace_of_extractByte {text rest : Text} {byte : UInt8}
    (h : extractByte text = some (byte, rest)) : isSpace byte = false := by
  unfold extractByte at h
  split at h
  case h_1 => cases h
  case h_2 first others hskip =>
    obtain ⟨rfl, -⟩ := Prod.mk.inj (Option.some.inj h)
    exact not_isSpace_of_skipSpace hskip

/-- An extracted word has at least one byte and no blanks. -/
theorem isWord_of_extractWord {text rest word : Text} (h : extractWord text = some (word, rest)) :
    word ≠ [] ∧ ∀ byte ∈ word, isSpace byte = false := by
  unfold extractWord at h
  split at h
  case h_1 => cases h
  case h_2 taken hne =>
    obtain ⟨rfl, -⟩ := Prod.mk.inj (Option.some.inj h)
    refine ⟨hne, fun byte hbyte ↦ ?_⟩
    have hall := List.mem_takeWhile_imp hbyte
    simpa using hall

/-! ## Escaped bytes -/

theorem not_isSpace_of_hexValue {digit : UInt8} {value : ℕ} (h : hexValue digit = some value) :
    isSpace digit = false := by
  unfold hexValue at h
  split at h
  case isTrue hdigit => exact not_isSpace_of_isDigit hdigit
  case isFalse =>
    simp only [isSpace, space, Bool.or_eq_false_iff, decide_eq_false_iff_not,
      Bool.and_eq_false_iff, UInt8.le_iff_toNat_le, ← UInt8.toNat_inj, UInt8.reduceToNat]
    simp only [Bool.and_eq_true, decide_eq_true_eq, UInt8.le_iff_toNat_le,
      UInt8.reduceToNat] at h
    split at h
    case isTrue hlower => omega
    case isFalse =>
      split at h
      case isTrue hupper => omega
      case isFalse => cases h

/-! ## Hexadecimal numbers -/

theorem dropHexMark_of_digits {digits : Text} (hdigits : ∀ digit ∈ digits, isHexDigit digit) :
    dropHexMark digits = digits := by
  unfold dropHexMark
  split
  case h_1 first second rest =>
    have hsecond := hdigits second (by simp)
    refine if_neg fun hmark ↦ ?_
    rcases hmark.2 with rfl | rfl
    · exact absurd hsecond (by decide)
    · exact absurd hsecond (by decide)
  case h_2 => rfl

/-- A number without a blank or a sign in front is read from its first byte on. -/
theorem takeSign_of_isHexDigit {first : UInt8} (hfirst : isHexDigit first) (rest : Text) :
    takeSign (skipSpace (first :: rest)) = (false, first :: rest) := by
  obtain ⟨value, hvalue⟩ := Option.isSome_iff_exists.mp hfirst
  have hminus : first ≠ minus := by
    rintro rfl
    exact absurd hfirst (by decide)
  have hplus : first ≠ plus := by
    rintro rfl
    exact absurd hfirst (by decide)
  rw [skipSpace_of_not_isSpace (not_isSpace_of_hexValue hvalue), takeSign, if_neg hminus,
    if_neg hplus]

/-- **Hexadecimal numbers are read.** -/
theorem strtoul16_hexNumber {text : Text} {value : ℕ} (hnumber : HexNumber text value)
    (hvalue : value < 2 ^ 64) : strtoul16 text = UInt64.ofNat value := by
  obtain ⟨digits, htext, hne, hdigits, rfl⟩ := hnumber
  have htake : digits.takeWhile isHexDigit = digits := List.takeWhile_eq_self_iff.mpr hdigits
  have hdrop := dropHexMark_of_digits hdigits
  have hmarked (second : UInt8) (hsecond : second = letterX ∨ second = capitalX) :
      dropHexMark (zero :: second :: digits) = digits := if_pos ⟨rfl, hsecond⟩
  obtain ⟨first, others, rfl⟩ := List.exists_cons_of_ne_nil hne
  have hsign := takeSign_of_isHexDigit (hdigits first List.mem_cons_self) others
  have hzero (rest : Text) : takeSign (skipSpace (zero :: rest)) = (false, zero :: rest) :=
    takeSign_of_isHexDigit (by decide) rest
  rcases htext with rfl | rfl | rfl
  · simp only [strtoul16, hsign, hdrop, htake, Nat.not_le.mpr hvalue, if_false, Bool.false_eq_true]
  · simp only [strtoul16, hzero, hmarked letterX (.inl rfl), htake, Nat.not_le.mpr hvalue, if_false,
      Bool.false_eq_true]
  · simp only [strtoul16, hzero, hmarked capitalX (.inr rfl), htake, Nat.not_le.mpr hvalue,
      if_false, Bool.false_eq_true]

namespace Escapes

variable {bytes : List UInt8} {text : Text}

/-- Each byte takes four. -/
theorem length_eq (h : Escapes bytes text) : text.length = 4 * bytes.length := by
  induction h with
  | nil => rfl
  | cons _ _ _ _ ih =>
    simp only [List.length_cons, ih]
    omega

theorem not_isSpace (h : Escapes bytes text) : ∀ byte ∈ text, isSpace byte = false := by
  induction h with
  | nil => exact fun byte hbyte ↦ absurd hbyte List.not_mem_nil
  | cons hhigh hlow _ _ ih =>
    simp only [List.forall_mem_cons]
    exact ⟨by decide, by decide, not_isSpace_of_hexValue hhigh, not_isSpace_of_hexValue hlow, ih⟩

theorem ne_nil (h : Escapes bytes text) (hne : bytes ≠ []) : text ≠ [] := by
  cases h with
  | nil => exact absurd rfl hne
  | cons => exact List.cons_ne_nil _ _

/-- The text of at least one byte starts with a backslash. -/
theorem exists_eq_cons (h : Escapes bytes text) (hne : bytes ≠ []) :
    ∃ rest, text = backslash :: rest := by
  cases h with
  | nil => exact absurd rfl hne
  | cons => exact ⟨_, rfl⟩

end Escapes

/-! ## Lines -/

theorem getlines_append {line : Text} (hline : newline ∉ line) (rest : Text) :
    getlines (line ++ newline :: rest) = line :: getlines rest := by
  induction line with
  | nil => simp [getlines]
  | cons byte line ih =>
    rw [List.mem_cons, not_or] at hline
    rw [List.cons_append, getlines, if_neg (Ne.symm hline.1), ih hline.2]

/-- Lines written one after the other, each ended by a newline, are read back. -/
theorem getlines_flatMap {Record : Type*} (render : Record → Text)
    (hrender : ∀ record, newline ∉ render record) (records : List Record) :
    getlines (records.flatMap fun record ↦ render record ++ [newline]) = records.map render := by
  induction records with
  | nil => rfl
  | cons record records ih =>
    rw [List.flatMap_cons, List.append_assoc, List.singleton_append,
      getlines_append (hrender record), ih, List.map_cons]

theorem getlines_eq_nil_iff (text : Text) : getlines text = [] ↔ text = [] := by
  cases text with
  | nil => exact ⟨fun _ ↦ rfl, fun _ ↦ rfl⟩
  | cons byte text =>
    rw [getlines]
    split
    · simp
    · split <;> simp

/-- The lines of two texts with a newline between them: an empty line may stand between theirs. -/
theorem exists_getlines_append (first second : Text) :
    ∃ between : List Text, (∀ line ∈ between, line = []) ∧
      getlines (first ++ newline :: second) = getlines first ++ between ++ getlines second := by
  induction first with
  | nil => exact ⟨[[]], by simp, by simp [getlines]⟩
  | cons byte first ih =>
    obtain ⟨between, hbetween, hlines⟩ := ih
    by_cases hbyte : byte = newline
    · refine ⟨between, hbetween, ?_⟩
      rw [List.cons_append, getlines, if_pos hbyte, hlines, getlines, if_pos hbyte]
      rfl
    · rw [List.cons_append, getlines, if_neg hbyte, getlines, if_neg hbyte]
      cases hfirst : getlines first with
      | cons line lines =>
        rw [hlines, hfirst]
        exact ⟨between, hbetween, rfl⟩
      | nil =>
        -- the newline after the first text ends the line that the byte begins
        obtain rfl := (getlines_eq_nil_iff first).mp hfirst
        refine ⟨[], by simp, ?_⟩
        rw [List.nil_append, getlines, if_pos rfl]
        rfl

end VirtualServiceGateway.TextExtraction
