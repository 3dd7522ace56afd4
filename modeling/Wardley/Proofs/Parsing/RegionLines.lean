import Wardley.Proofs.Construct.RegionGrammar
import Wardley.Proofs.Parsing.Coverage
import Wardley.Proofs.Text.Lines

/-!
# Lines that give regions

A run over the lines of a text reads those that a keyword introduces.  Such a line gives the
region of its body and nothing else, or a single diagnostic if its body is that of no region,
and every other line gives nothing.

Main definitions:

- `ofLine`: what a line adds to an outcome.
- `RunsOver`: what a run over lines gives.

Main results:

- `ofLine_collect`: a line adds what the declarations on it give.
- `regionsOf_runsOver`: what a run over the lines of a text gives.
-/

namespace Wardley

open Construct Notation Text

/-! ## Outcomes of lines -/

/-- The regions and the diagnostics of a line. -/
def ofLine (outcome : Outcome Region) (n : Nat) : Outcome Region :=
  ⟨outcome.records.filter fun region => region.line = n,
    outcome.errors.filter fun error => error.line = .int n⟩

/-- What the lines of a text give that a keyword introduces. -/
structure RunsOver (options : RegionOptions) (keyword : String) (lines : List (List Char))
    (outcome : Outcome Region) : Prop where
  /-- A line of the keyword gives the region of its body and nothing else. -/
  region_iff : ∀ (n : Nat) (line body : List Char) (region : Region),
    (n, line) ∈ numbered lines → keywordBody? keyword.toList line = some body →
      (ofLine outcome n = ⟨[region], []⟩ ↔ IsRegion options ⟨n, keyword, body⟩ region)
  /-- It gives a single diagnostic if its body is that of no region. -/
  diagnostic_iff : ∀ (n : Nat) (line body : List Char),
    (n, line) ∈ numbered lines → keywordBody? keyword.toList line = some body →
      ((∃ error, ofLine outcome n = ⟨[], [error]⟩) ↔
        ∀ region, ¬ IsRegion options ⟨n, keyword, body⟩ region)
  /-- Another line gives nothing. -/
  nothing : ∀ n : Nat,
    (∀ line, (n, line) ∈ numbered lines → keywordBody? keyword.toList line = none) →
      ofLine outcome n = ⟨[], []⟩
  /-- Regions and diagnostics are in the order of their lines. -/
  records_ordered : (outcome.records.map Region.line).Pairwise (· < ·)
  errors_ordered : ∃ numbers : List Nat,
    outcome.errors.map Diagnostic.line = numbers.map (fun n => .int n) ∧
      numbers.Pairwise (· < ·)

/-- The outcome of a line is that of the declarations on it. -/
theorem ofLine_collect (options : RegionOptions) (declared : List Declaration) (n : Nat) :
    ofLine (collect (readRegion options) declared) n =
      collect (readRegion options) (declared.filter fun d => d.line = n) := by
  induction declared with
  | nil => rfl
  | cons first rest ih =>
      rw [collect]
      by_cases hfirst : first.line = n
      · rw [List.filter_cons_of_pos (by simpa using hfirst), collect, ← ih]
        cases hread : readRegion options first with
        | ok region =>
            have hline : region.line = n := (line_of_readRegion hread).trans hfirst
            simp [ofLine, Outcome.add, hline]
        | error fault => simp [ofLine, Outcome.add, Fault.diagnostic, hfirst]
      · rw [List.filter_cons_of_neg (by simpa using hfirst), ← ih]
        cases hread : readRegion options first with
        | ok region =>
            have hline : region.line ≠ n := fun h =>
              hfirst ((line_of_readRegion hread).symm.trans h)
            simp [ofLine, Outcome.add, hline]
        | error fault =>
            have hline : Number.int first.line ≠ .int n := fun h =>
              hfirst (Int.ofNat.inj (Number.int.inj h))
            simp only [ofLine, Outcome.add, Fault.diagnostic]
            rw [List.filter_cons_of_neg (by simpa using hline)]

/-- A declaration stands on the line that it is made of. -/
theorem filter_line_declarations (keywords : List String) (lines : List (Nat × List Char))
    (n : Nat) :
    ((declarations keywords lines).filter fun d => d.line = n) =
      declarations keywords (lines.filter fun line => line.1 = n) := by
  rw [declarations, declarations, List.filter_filterMap, List.filterMap_filter]
  refine List.filterMap_congr fun line _ => ?_
  cases hdeclared : declaration? keywords line with
  | none => simp
  | some d => simp [Option.filter, (declaration?_eq_some hdeclared).1]

/-! ## Lines of a text -/

/-- The body of a line lies in the line. -/
theorem keywordBody?_isInfix {keyword line body : List Char}
    (h : keywordBody? keyword line = some body) : body <:+: line := by
  rw [keywordBody?] at h
  split at h
  · cases h
  · cases h
    exact List.nil_infix
  · rename_i c rest hafter
    split at h
    · cases h
      have hsuffix : rest <:+: trim line := ⟨keyword ++ [c], [], by
        simpa using (afterPrefix_eq_some.1 hafter).symm⟩
      exact (trim_isInfix rest).trans (hsuffix.trans (trim_isInfix line))
    · cases h

section Lines

variable (options : RegionOptions) (keyword : String) {lines : List (List Char)} {n : Nat}

/-- A line of the keyword adds what its body gives. -/
theorem ofLine_regionsOf {line body : List Char} (hline : (n, line) ∈ numbered lines)
    (hbody : keywordBody? keyword.toList line = some body) :
    ofLine (regionsOf options (numbered lines) keyword) n =
      Outcome.empty.add n (readRegion options ⟨n, keyword, body⟩) := by
  have hnumber : ((numbered lines).filter fun other => other.1 = n) = [(n, line)] :=
    filter_key_eq ((pairwise_numbered lines).imp Nat.ne_of_lt) hline
  rw [regionsOf, ofLine_collect, filter_line_declarations, hnumber, declarations]
  have hdeclared : declaration? [keyword] (n, line) = some ⟨n, keyword, body⟩ := by
    rw [declaration?, List.findSome?_singleton, hbody]
    rfl
  rw [List.filterMap_cons_some hdeclared]
  rfl

/-- A line that the keyword does not introduce adds nothing. -/
theorem ofLine_regionsOf_eq_nil
    (hnone : ∀ line, (n, line) ∈ numbered lines → keywordBody? keyword.toList line = none) :
    ofLine (regionsOf options (numbered lines) keyword) n = ⟨[], []⟩ := by
  have hdeclared :
      declarations [keyword] ((numbered lines).filter fun other => other.1 = n) = [] := by
    rw [declarations, List.filterMap_eq_nil_iff]
    rintro ⟨number, line⟩ hmem
    rcases List.mem_filter.1 hmem with ⟨hline, hnumber⟩
    obtain rfl : number = n := of_decide_eq_true hnumber
    rw [declaration?, List.findSome?_singleton, hnone line hline]
    rfl
  rw [regionsOf, ofLine_collect, filter_line_declarations, hdeclared]
  rfl

/-- A run over the lines of a text gives the regions of its lines and diagnoses the others. -/
theorem regionsOf_runsOver (text : String) :
    RunsOver options keyword (Text.lines text.toList)
      (regionsOf options (numbered (Text.lines text.toList)) keyword) := by
  have hread {n : Nat} {line body : List Char} {region : Region}
      (hline : (n, line) ∈ numbered (Text.lines text.toList))
      (hbody : keywordBody? keyword.toList line = some body) :
      readRegion options ⟨n, keyword, body⟩ = .ok region ↔
        IsRegion options ⟨n, keyword, body⟩ region := by
    have hmem := snd_mem_of_mem_numberFrom hline
    exact readRegion_eq_ok_iff fun hfeed =>
      not_mem_of_mem_splitOn hmem ((keywordBody?_isInfix hbody).subset hfeed)
  have hordered := pairwise_line_declarations [keyword]
    (pairwise_numbered (Text.lines text.toList))
  refine ⟨?_, ?_, fun n hnone => ofLine_regionsOf_eq_nil options keyword hnone, ?_, ?_⟩
  · intro n line body region hline hbody
    rw [ofLine_regionsOf options keyword hline hbody, ← hread hline hbody]
    cases readRegion options ⟨n, keyword, body⟩ <;> simp [Outcome.add, Outcome.empty]
  · intro n line body hline hbody
    simp only [ofLine_regionsOf options keyword hline hbody, ← hread hline hbody]
    cases readRegion options ⟨n, keyword, body⟩ <;> simp [Outcome.add, Outcome.empty]
  · rw [regionsOf, map_line_records (f := id) fun _ _ _ h => line_of_readRegion h]
    exact hordered.sublist (List.filter_sublist.map _)
  · refine ⟨((declarations [keyword] (numbered (Text.lines text.toList))).filter fun d =>
      !(readRegion options d).isOk).map Declaration.line, ?_, ?_⟩
    · rw [regionsOf, map_line_errors, List.map_map]
      rfl
    · exact hordered.sublist (List.filter_sublist.map _)

end Lines

end Wardley
