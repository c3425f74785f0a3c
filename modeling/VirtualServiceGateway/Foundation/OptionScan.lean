import VirtualServiceGateway.Foundation.TextExtraction

/-!
# Scanning a command line for options

A scan reports the options of a command line, in order: letters after a dash, each with the argument
it takes, which is the rest of its word or else the next word whatever that is. Words that are no
options are passed over, and two dashes end the scan. A command line whose options all have their
arguments is exactly a row of options and operands, and after them nothing or two dashes.
-/

namespace VirtualServiceGateway.OptionScan

open TextExtraction

/-- Whether a letter is an option, and if it is, whether it takes an argument. -/
abbrev Arity := UInt8 → Option Bool

/-- What the scan says about one letter. -/
inductive Report where
  | given (letter : UInt8) (argument : Option Text)
  | unknown (letter : UInt8)
  | missing (letter : UInt8)
  deriving DecidableEq

/-- The word that ends the scan. -/
def endOfOptions : Text := [minus, minus]

/-- The letters of one word. The last one may have its argument still to come. -/
def scanLetters (arity : Arity) : Text → List Report × Option UInt8
  | [] => ([], none)
  | letter :: rest =>
      match arity letter with
      | none =>
          let (reports, pending) := scanLetters arity rest
          (.unknown letter :: reports, pending)
      | some false =>
          let (reports, pending) := scanLetters arity rest
          (.given letter none :: reports, pending)
      | some true =>
          match rest with
          | [] => ([], some letter)
          | _ :: _ => ([.given letter (some rest)], none)

/-- A word with options: a dash and at least one letter. -/
def optionLetters : Text → Option Text
  | first :: letter :: rest => if first = minus then some (letter :: rest) else none
  | _ => none

/-- The reports on the words, where a letter may wait for its argument. -/
def scanFrom (arity : Arity) : Option UInt8 → List Text → List Report
  | none, [] => []
  | some letter, [] => [.missing letter]
  | some letter, word :: words => .given letter (some word) :: scanFrom arity none words
  | none, word :: words =>
      if word = endOfOptions then []
      else match optionLetters word with
        | none => scanFrom arity none words
        | some letters =>
            let (reports, pending) := scanLetters arity letters
            reports ++ scanFrom arity pending words

def scan (arity : Arity) (words : List Text) : List Report := scanFrom arity none words

/-! ## Command lines as rows of options and operands -/

/-- A word that is no option, or an option with its argument in the same word or in the next. -/
inductive Piece where
  | operand (word : Text)
  | attached (letter : UInt8) (argument : Text)
  | separate (letter : UInt8) (argument : Text)

namespace Piece

def words : Piece → List Text
  | operand word => [word]
  | attached letter argument => [minus :: letter :: argument]
  | separate letter argument => [[minus, letter], argument]

def report : Piece → Option Report
  | operand _ => none
  | attached letter argument => some (.given letter (some argument))
  | separate letter argument => some (.given letter (some argument))

/-- The piece is what its name says. -/
def Wellformed (arity : Arity) : Piece → Prop
  | operand word => optionLetters word = none
  | attached letter argument => arity letter = some true ∧ argument ≠ []
  | separate letter _ => arity letter = some true ∧ letter ≠ minus

variable {arity : Arity}

/-- The scan of a piece is its report. -/
theorem scan_words {piece : Piece} (hwell : piece.Wellformed arity) (rest : List Text) :
    scan arity (piece.words ++ rest) = piece.report.toList ++ scan arity rest := by
  cases piece with
  | operand word =>
    have hnone : optionLetters word = none := hwell
    have hgoes : word ≠ endOfOptions := by
      rintro rfl
      cases hnone
    simp [words, report, scan, scanFrom, hgoes, hnone]
  | attached letter argument =>
    obtain ⟨hletter, hargument⟩ := hwell
    have hgoes : minus :: letter :: argument ≠ endOfOptions := by
      intro h
      exact hargument (List.cons.inj (List.cons.inj h).2).2
    obtain ⟨first, others, rfl⟩ := List.exists_cons_of_ne_nil hargument
    simp [words, report, scan, scanFrom, hgoes, optionLetters, scanLetters, hletter]
  | separate letter argument =>
    obtain ⟨hletter, hminus⟩ := hwell
    have hgoes : [minus, letter] ≠ endOfOptions := by
      intro h
      exact hminus (List.cons.inj (List.cons.inj h).2).1
    simp [words, report, scan, scanFrom, hgoes, optionLetters, scanLetters, hletter]

end Piece

/-- Nothing, or two dashes and anything. -/
def Ends (tail : List Text) : Prop := ∀ word ∈ tail.head?, word = endOfOptions

theorem scan_of_ends (arity : Arity) {tail : List Text} (hends : Ends tail) :
    scan arity tail = [] := by
  cases tail with
  | nil => rfl
  | cons word words =>
    rw [scan, scanFrom, if_pos (hends word rfl)]

/-- The scan of a row of options and operands reports its options. -/
theorem scan_pieces {arity : Arity} {pieces : List Piece}
    (hwell : ∀ piece ∈ pieces, piece.Wellformed arity) {tail : List Text} (hends : Ends tail) :
    scan arity (pieces.flatMap Piece.words ++ tail) = pieces.filterMap Piece.report := by
  induction pieces with
  | nil => exact scan_of_ends arity hends
  | cons piece pieces ih =>
    rw [List.forall_mem_cons] at hwell
    rw [List.flatMap_cons, List.append_assoc, piece.scan_words hwell.1, ih hwell.2]
    cases hreport : piece.report with
    | none => rw [List.filterMap_cons_none hreport]; rfl
    | some report => rw [List.filterMap_cons_some hreport]; rfl

/-- An option that has its argument. -/
def Report.HasArgument : Report → Prop
  | .given _ (some _) => True
  | _ => False

/-- One option word whose options all have arguments is one letter. -/
theorem scanLetters_of_hasArgument {arity : Arity} {letter : UInt8} (rest : Text)
    (hall : ∀ report ∈ (scanLetters arity (letter :: rest)).1, report.HasArgument) :
    arity letter = some true := by
  cases harity : arity letter with
  | none =>
    have hunknown : Report.unknown letter ∈ (scanLetters arity (letter :: rest)).1 := by
      simp [scanLetters, harity]
    exact (hall _ hunknown).elim
  | some takes =>
    cases takes with
    | true => rfl
    | false =>
      have hflag : Report.given letter none ∈ (scanLetters arity (letter :: rest)).1 := by
        simp [scanLetters, harity]
      exact (hall _ hflag).elim

theorem exists_of_optionLetters {word letters : Text} (h : optionLetters word = some letters) :
    ∃ letter rest, letters = letter :: rest ∧ word = minus :: letter :: rest := by
  unfold optionLetters at h
  split at h
  case h_1 first letter rest =>
    split at h
    case isTrue hfirst =>
      subst hfirst
      exact ⟨letter, rest, (Option.some.inj h).symm, rfl⟩
    case isFalse => cases h
  case h_2 => cases h

/-- **Completeness.** Where every option has its argument, the command line is a row of options and
operands, and after them nothing or two dashes. -/
theorem exists_pieces (arity : Arity) : (words : List Text) →
    (∀ report ∈ scan arity words, report.HasArgument) →
    ∃ (pieces : List Piece) (tail : List Text), (∀ piece ∈ pieces, piece.Wellformed arity) ∧
      Ends tail ∧ words = pieces.flatMap Piece.words ++ tail
  | [], _ => ⟨[], [], by simp, fun _ h ↦ (by cases h), rfl⟩
  | word :: words, hall => by
    by_cases hend : word = endOfOptions
    · refine ⟨[], word :: words, by simp, fun first hfirst ↦ ?_, rfl⟩
      rw [← Option.some.inj hfirst, hend]
    rw [scan, scanFrom, if_neg hend] at hall
    cases hletters : optionLetters word with
    | none =>
      rw [hletters] at hall
      obtain ⟨pieces, tail, hwell, hends, rfl⟩ := exists_pieces arity words hall
      exact ⟨.operand word :: pieces, tail, List.forall_mem_cons.mpr ⟨hletters, hwell⟩, hends, rfl⟩
    | some letters =>
      obtain ⟨letter, rest, rfl, rfl⟩ := exists_of_optionLetters hletters
      rw [hletters] at hall
      have htakes : arity letter = some true := by
        refine scanLetters_of_hasArgument rest fun report hreport ↦ ?_
        exact hall report (List.mem_append_left _ hreport)
      have hminus : rest = [] → letter ≠ minus := by
        rintro rfl rfl
        exact hend rfl
      cases rest with
      | cons first others =>
        -- the argument is in the same word
        simp only [scanLetters, htakes, List.singleton_append, List.forall_mem_cons] at hall
        obtain ⟨pieces, tail, hwell, hends, rfl⟩ := exists_pieces arity words hall.2
        exact ⟨.attached letter (first :: others) :: pieces, tail,
          List.forall_mem_cons.mpr ⟨⟨htakes, List.cons_ne_nil _ _⟩, hwell⟩, hends, rfl⟩
      | nil =>
        -- the argument is the next word
        simp only [scanLetters, htakes, List.nil_append] at hall
        cases words with
        | nil => exact (hall (.missing letter) List.mem_cons_self).elim
        | cons argument words =>
          rw [scanFrom, List.forall_mem_cons] at hall
          obtain ⟨pieces, tail, hwell, hends, rfl⟩ := exists_pieces arity words hall.2
          exact ⟨.separate letter argument :: pieces, tail,
            List.forall_mem_cons.mpr ⟨⟨htakes, hminus rfl⟩, hwell⟩, hends, rfl⟩

end VirtualServiceGateway.OptionScan
