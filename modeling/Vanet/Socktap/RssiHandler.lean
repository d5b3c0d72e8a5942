/-
**The reports of the signal strength.**

`rssi_handler` reads lines `mac|rssi`. It converts the text from the delimiter on, which is no number,
so the first report ends the receiver thread with an exception.

* `readReports_of_delimited`: a line with a delimiter is an invalid argument.
* `readReports_iff`: the reports of a text are read as they should be exactly if there are none.
-/

import Mathlib.Data.List.TakeDrop
import Mathlib.Data.Nat.Digits.Defs
import Mathlib.Logic.Function.Basic

namespace Vanet.Socktap

/-- `std::map<std::string, int>`. -/
abbrev RssiMap := List Char → Option ℤ

/-- The exceptions of `std::stoi`. -/
inductive ConversionError
  | invalidArgument
  | outOfRange
  deriving DecidableEq

/-- `isspace`. -/
def isSpace (c : Char) : Bool := c = ' ' || ('\t' ≤ c && c ≤ '\r')

/-- The sign in front of a number, if there is one, and what follows it. -/
def splitSign : List Char → Bool × List Char
  | '-' :: rest => (true, rest)
  | '+' :: rest => (false, rest)
  | text => (false, text)

/-- `std::stoi`: spaces, a sign and decimal digits; the rest of the text is ignored. -/
def stoi (text : List Char) : Except ConversionError ℤ :=
  let (negative, rest) := splitSign (text.dropWhile isSpace)
  let digits := rest.takeWhile Char.isDigit
  if digits = [] then .error .invalidArgument
  else
    let magnitude : ℤ := Nat.ofDigitChars 10 digits 0
    let value := if negative then -magnitude else magnitude
    if -2 ^ 31 ≤ value ∧ value < 2 ^ 31 then .ok value else .error .outOfRange

/-- `getline`: a line without its end, and the text behind it. -/
def getline (text : List Char) : Option (List Char × List Char) :=
  if text = [] then none
  else some (text.takeWhile (· ≠ '\n'), (text.dropWhile (· ≠ '\n')).drop 1)

theorem getline_shorter {text line rest : List Char} (found : getline text = some (line, rest)) :
    rest.length < text.length := by
  unfold getline at found
  split_ifs at found with empty
  obtain ⟨_, rfl⟩ := Prod.mk.inj (Option.some.inj found)
  have behind : (text.dropWhile (· ≠ '\n')).length ≤ text.length :=
    (List.dropWhile_suffix _).length_le
  have some : 0 < text.length := List.length_pos_iff.mpr empty
  rw [List.length_drop]
  omega

/-- **The loop of `rssi_handler`** over the lines of a datagram. -/
def readReports (text : List Char) (tmpMap : RssiMap) : Except ConversionError RssiMap :=
  match found : getline text with
  | none => .ok tmpMap
  | some (line, rest) =>
    have _shorter := getline_shorter found
    match line.findIdx? (· = '|') with
    | none => .ok tmpMap
    | some delimiter => do
      let mac := line.take delimiter
      let rssi ← stoi ((line.drop delimiter).take line.length)
      readReports rest (Function.update tmpMap mac (some rssi))
  termination_by text.length

/-! ### What the loop does -/

variable {text line rest : List Char} {tmpMap : RssiMap}

theorem stoi_delimiter (behind : List Char) : stoi ('|' :: behind) = .error .invalidArgument := rfl

/-- The text that is converted begins with the delimiter. -/
theorem converted {delimiter : ℕ} (found : line.findIdx? (· = '|') = some delimiter) :
    ∃ behind, (line.drop delimiter).take line.length = '|' :: behind := by
  obtain ⟨inside, holds, _⟩ := List.findIdx?_eq_some_iff_getElem.mp found
  have same : (line)[delimiter] = '|' := of_decide_eq_true holds
  rw [List.take_of_length_le (by rw [List.length_drop]; omega), List.drop_eq_getElem_cons inside, same]
  exact ⟨_, rfl⟩

/-- **A line with a delimiter** is never converted. -/
theorem readReports_of_delimited (found : getline text = some (line, rest)) (delimited : '|' ∈ line) :
    readReports text tmpMap = .error .invalidArgument := by
  have some : (line.findIdx? (· = '|')).isSome = true := by
    rw [List.findIdx?_isSome, List.any_eq_true]
    exact ⟨'|', delimited, rfl⟩
  obtain ⟨delimiter, place⟩ := Option.isSome_iff_exists.mp some
  obtain ⟨behind, text⟩ := converted place
  rw [readReports]
  split
  next none => cases none.symm.trans found
  next other remaining same =>
    obtain ⟨rfl, rfl⟩ := Prod.mk.inj (Option.some.inj (same.symm.trans found))
    rw [place]
    dsimp only
    rw [text, stoi_delimiter]
    rfl

/-- **The first line without a delimiter** ends the loop. -/
theorem readReports_of_stop (stop : ∀ line rest, getline text = some (line, rest) → '|' ∉ line) :
    readReports text tmpMap = .ok tmpMap := by
  rw [readReports]
  split
  next => rfl
  next line rest found =>
    have none : line.findIdx? (· = '|') = none := by
      rw [List.findIdx?_eq_none_iff]
      intro c member
      exact decide_eq_false fun same => stop line rest found (same ▸ member)
    rw [none]

/-! ### What the reports say -/

/-- A line `mac|rssi`, whose second part is a number. -/
structure Report where
  mac : List Char
  number : List Char
  rssi : ℤ
  named : '|' ∉ mac
  integer : stoi number = .ok rssi

def Report.spelling (report : Report) : List Char := report.mac ++ '|' :: report.number

/-- **A text with these reports**, up to its end or to its first line without a delimiter. -/
inductive Reports : List Char → List Report → Prop
  | stop {text : List Char} : (∀ line rest, getline text = some (line, rest) → '|' ∉ line) → Reports text []
  | report {text rest : List Char} {first : Report} {reports : List Report} :
    getline text = some (first.spelling, rest) → Reports rest reports → Reports text (first :: reports)

/-- Each address has the signal strength of its last line. -/
def lastReported (reports : List Report) : RssiMap := fun mac =>
  ((reports.filter fun report => report.mac = mac).getLast?).map Report.rssi

/-- **Reports are read as they should be exactly if there are none.** -/
theorem readReports_iff {reports : List Report} (spelled : Reports text reports) :
    readReports text (fun _ => none) = .ok (lastReported reports) ↔ reports = [] := by
  cases spelled with
  | stop stop => exact iff_of_true (readReports_of_stop stop) rfl
  | report found _ =>
    refine iff_of_false ?_ (List.cons_ne_nil _ _)
    rw [readReports_of_delimited found (List.mem_append_right _ List.mem_cons_self)]
    exact nofun

/-- A text without any delimiter. -/
theorem readReports_silent :
    readReports ['o', 'k', '
'] (fun _ => none) = .ok (lastReported []) :=
  (readReports_iff (.stop fun line rest found => by cases found; decide)).mpr rfl

/-- **One report ends the loop with an exception.** -/
theorem not_readReports : ¬ ∀ (text : List Char) (reports : List Report), Reports text reports →
    readReports text (fun _ => none) = .ok (lastReported reports) := by
  intro reads
  let report : Report := ⟨['9', 'a', ':', '0', '1'], ['-', '5', '0'], -50, by decide, by decide⟩
  have found : getline report.spelling = some (report.spelling, []) := by decide
  have spelled : Reports report.spelling [report] := .report found (.stop nofun)
  have failed : readReports report.spelling (fun _ => none) = .error .invalidArgument :=
    readReports_of_delimited found (by decide)
  cases (reads _ _ spelled).symm.trans failed

end Vanet.Socktap
