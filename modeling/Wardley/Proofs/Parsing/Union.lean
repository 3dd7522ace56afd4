import Wardley.Proofs.Model.Reordering
import Wardley.Proofs.Parsing.Failures

/-!
# The union of findings

Findings fit together when each has the key of a field and no two have the same one.  They
are looked through from the first one on, so that the error is about the first finding that
does not fit to those before it; of findings that fit together each fills its own field.
The order of the findings is seen in the diagnostics only.

Main definitions:

- `FitTogether`: the findings that have a union.
- `Offends`: what is wrong with a finding behind others.
- `Draft.content`: the fields of a draft by their kinds.
- `Assembly.IsUnion`: what an assembly of findings holds.

Main results:

- `firstMisfit_eq_none_iff`, `firstMisfit_eq_some_iff`: when the look-through ends, and where.
- `Assembly.isUnion_union`: the union holds what the findings bring.
- `Assembly.union_perm`: the union of findings in another order.
- `assembles_union`: the assembly of every list of findings.
-/

namespace Wardley

/-! ## Findings that fit together -/

/-- The key of a field that a kind fills. -/
def IsFieldKey (key : String) : Prop := ∃ kind : Kind, kind.key = key

/-- Each finding has the key of a field, and no two have the same key. -/
structure FitTogether (findings : List Finding) : Prop where
  known : ∀ finding ∈ findings, IsFieldKey finding.key
  nodup : (findings.map Finding.key).Nodup

/-- What is wrong with a finding behind others: no field has its key, or theirs has it. -/
inductive Offends (before : List Finding) (finding : Finding) : AssemblyError → Prop
  | unknown (h : ¬ IsFieldKey finding.key) : Offends before finding (.unknownKey finding.key)
  | repeated (hknown : IsFieldKey finding.key) (h : finding.key ∈ before.map Finding.key) :
      Offends before finding (.repeatedKey finding.key)

/-- A key is of no kind exactly when it is no field. -/
theorem isNone_ofKey?_iff {key : String} :
    (Kind.ofKey? key).isNone = true ↔ ¬ IsFieldKey key := by
  rw [Option.isNone_iff_eq_none, Kind.ofKey?, List.find?_eq_none]
  constructor
  · rintro hnone ⟨kind, hkind⟩
    exact hnone kind kind.mem_all (beq_iff_eq.2 hkind)
  · intro hnot kind _ hkind
    exact hnot ⟨kind, beq_iff_eq.1 hkind⟩

/-- The diagnostics are no field that a finding may fill. -/
theorem not_isFieldKey_errors : ¬ IsFieldKey Draft.Field.errors.key := by
  rintro ⟨kind, hkind⟩
  revert hkind
  cases kind <;> decide

/-! ## The first finding that does not fit -/

/-- A finding fits when its key is a field not seen before. -/
theorem firstMisfit_cons {seen : List String} {finding : Finding} {rest : List Finding} :
    firstMisfit seen (finding :: rest) = none ↔
      IsFieldKey finding.key ∧ finding.key ∉ seen ∧
        firstMisfit (finding.key :: seen) rest = none := by
  rw [firstMisfit]
  split
  · rename_i hunknown
    simp [isNone_ofKey?_iff.1 hunknown]
  · rename_i hknown
    rw [isNone_ofKey?_iff, not_not] at hknown
    split
    · rename_i hseen
      simp [List.contains_iff_mem.1 hseen]
    · rename_i hseen
      rw [List.contains_iff_mem] at hseen
      simp [hknown, hseen]

/-- No finding is in the way when all fit together and none has a key that was seen. -/
theorem firstMisfit_eq_none_iff {seen : List String} {findings : List Finding} :
    firstMisfit seen findings = none ↔
      FitTogether findings ∧ ∀ finding ∈ findings, finding.key ∉ seen := by
  induction findings generalizing seen with
  | nil => exact ⟨fun _ => ⟨⟨by simp, List.nodup_nil⟩, by simp⟩, fun _ => rfl⟩
  | cons finding rest ih =>
      rw [firstMisfit_cons, ih]
      constructor
      · rintro ⟨hknown, hseen, ⟨hrest, hnodup⟩, hapart⟩
        refine ⟨⟨List.forall_mem_cons.2 ⟨hknown, hrest⟩, ?_⟩, List.forall_mem_cons.2 ⟨hseen, ?_⟩⟩
        · rw [List.map_cons, List.nodup_cons, List.mem_map]
          refine ⟨?_, hnodup⟩
          rintro ⟨other, hother, hkey⟩
          exact hapart other hother (hkey ▸ List.mem_cons_self)
        · exact fun other hother hmem => hapart other hother (List.mem_cons_of_mem _ hmem)
      · rintro ⟨⟨hknown, hnodup⟩, hapart⟩
        rw [List.map_cons, List.nodup_cons, List.mem_map] at hnodup
        rcases List.forall_mem_cons.1 hknown with ⟨hfinding, hrest⟩
        rcases List.forall_mem_cons.1 hapart with ⟨hseen, hothers⟩
        refine ⟨hfinding, hseen, ⟨hrest, hnodup.2⟩, fun other hother hmem => ?_⟩
        rcases List.mem_cons.1 hmem with hkey | hmem
        · exact hnodup.1 ⟨other, hother, hkey⟩
        · exact hothers other hother hmem

/-- Behind findings that are looked through, their keys are those that were seen. -/
theorem firstMisfit_append (seen : List String) (before behind : List Finding) :
    firstMisfit seen (before ++ behind) =
      (firstMisfit seen before).or
        (firstMisfit ((before.map Finding.key).reverse ++ seen) behind) := by
  induction before generalizing seen with
  | nil => rfl
  | cons finding rest ih =>
      rw [List.cons_append, firstMisfit, firstMisfit, ih, List.map_cons, List.reverse_cons,
        List.append_assoc, List.singleton_append]
      split
      · rfl
      · split
        · rfl
        · rfl

/-- The first finding of some is in the way when it offends against those that were seen. -/
theorem firstMisfit_singleton {before : List Finding} {finding : Finding} {error : AssemblyError} :
    firstMisfit (before.map Finding.key).reverse [finding] = some error ↔
      Offends before finding error := by
  rw [firstMisfit]
  constructor
  · intro h
    split at h
    · rename_i hunknown
      cases h
      exact .unknown (isNone_ofKey?_iff.1 hunknown)
    · rename_i hknown
      rw [isNone_ofKey?_iff, not_not] at hknown
      split at h
      · rename_i hrepeated
        cases h
        exact .repeated hknown (List.mem_reverse.1 (List.contains_iff_mem.1 hrepeated))
      · cases h
  · rintro (hunknown | ⟨hknown, hrepeated⟩)
    · rw [if_pos (isNone_ofKey?_iff.2 hunknown)]
    · rw [if_neg (by rwa [isNone_ofKey?_iff, not_not]),
        if_pos (List.contains_iff_mem.2 (List.mem_reverse.2 hrepeated))]

/-- The error is about the first finding that does not fit to those before it. -/
theorem firstMisfit_eq_some_iff {findings : List Finding} {error : AssemblyError} :
    firstMisfit [] findings = some error ↔
      ∃ before finding behind, findings = before ++ finding :: behind ∧
        FitTogether before ∧ Offends before finding error := by
  have hfits (before : List Finding) : firstMisfit [] before = none ↔ FitTogether before := by
    rw [firstMisfit_eq_none_iff]
    simp
  constructor
  · -- the last finding counts only if all before it fit together
    induction findings using List.reverseRecOn with
    | nil => intro h; cases h
    | append_singleton before last ih =>
        intro h
        rw [firstMisfit_append, List.append_nil] at h
        cases hbefore : firstMisfit [] before with
        | some earlier =>
            rw [hbefore, Option.some_or] at h
            rcases ih (hbefore.trans h) with ⟨start, finding, behind, rfl, hstart, hoffends⟩
            exact ⟨start, finding, behind ++ [last], by simp, hstart, hoffends⟩
        | none =>
            rw [hbefore, Option.none_or] at h
            exact ⟨before, last, [], rfl, (hfits before).1 hbefore, firstMisfit_singleton.1 h⟩
  · rintro ⟨before, finding, behind, rfl, hbefore, hoffends⟩
    have hhere := firstMisfit_singleton.2 hoffends
    rw [← List.singleton_append, ← List.append_assoc, firstMisfit_append, firstMisfit_append,
      (hfits before).2 hbefore, List.append_nil, hhere]
    rfl

/-! ## Contents of the union -/

/-- The field of a draft that a kind fills. -/
def Draft.content (draft : Draft) : Kind → Content
  | .title => .title draft.title
  | .evolution => .axis draft.evolution
  | .presentation => .presentation draft.presentation
  | .notes => .notes draft.notes
  | .annotations => .annotations draft.annotations
  | .elements => .elements draft.elements
  | .pipelines => .pipelines draft.pipelines
  | .evolved => .evolved draft.evolved
  | .anchors => .elements draft.anchors
  | .links => .links draft.links
  | .submaps => .elements draft.submaps
  | .urls => .urls draft.urls
  | .attitudes => .attitudes draft.attitudes
  | .accelerators => .accelerators draft.accelerators
  | .methods => .methods draft.methods

/-- What is empty in an assembly is empty in a draft. -/
theorem Draft.content_empty (kind : Kind) : ({} : Draft).content kind = kind.empty := by
  cases kind <;> rfl

namespace Assembly

/-- A draft has the contents of an assembly in the fields of their types. -/
theorem content_draft {assembly : Assembly} {kind : Kind}
    (h : kind.admits (assembly.content kind) = true) :
    assembly.draft.content kind = assembly.content kind := by
  cases kind <;> simp only [Draft.content, draft] <;> revert h <;>
    generalize assembly.content _ = content <;> intro h <;> cases content <;>
    first | rfl | cases h

/-- The assembly holds what the findings bring, each in its own field, and nothing else. -/
structure IsUnion (assembly : Assembly) (findings : List Finding) : Prop where
  /-- The field of a finding holds its content. -/
  content_eq : ∀ finding ∈ findings, ∀ kind : Kind, kind.key = finding.key →
    assembly.content kind = finding.content
  /-- A field that no finding fills is empty. -/
  content_empty : ∀ kind : Kind, (∀ finding ∈ findings, finding.key ≠ kind.key) →
    assembly.content kind = kind.empty
  /-- So does the draft, if the content is of the type of the field. -/
  draft_eq : ∀ finding ∈ findings, ∀ kind : Kind, kind.key = finding.key →
    kind.admits finding.content = true → assembly.draft.content kind = finding.content
  draft_empty : ∀ kind : Kind, (∀ finding ∈ findings, finding.key ≠ kind.key) →
    assembly.draft.content kind = ({} : Draft).content kind
  /-- The diagnostics follow each other in the order of the findings. -/
  errors_eq : assembly.errors = findings.flatMap Finding.errors
  draft_errors : assembly.draft.errors = findings.flatMap Finding.errors

variable {findings others : List Finding}

/-- The union holds the content of each finding. -/
theorem content_union_of_mem (h : FitTogether findings) {finding : Finding}
    (hmem : finding ∈ findings) {kind : Kind} (hkey : kind.key = finding.key) :
    (union findings).content kind = finding.content := by
  have hfind := (find?_key_eq_some_iff h.nodup).2 ⟨hmem, hkey.symm⟩
  simp only [union, hfind]

/-- The union holds nothing of a kind that no finding is of. -/
theorem content_union_of_forall_ne {kind : Kind}
    (h : ∀ finding ∈ findings, finding.key ≠ kind.key) :
    (union findings).content kind = kind.empty := by
  have hfind : findings.find? (fun finding => finding.key == kind.key) = none := by
    rw [List.find?_eq_none]
    exact fun finding hfinding => mt beq_iff_eq.1 (h finding hfinding)
  simp only [union, hfind]

/-- The union of findings that fit together holds what they bring. -/
theorem isUnion_union (h : FitTogether findings) : (union findings).IsUnion findings where
  content_eq _ hmem _ hkey := content_union_of_mem h hmem hkey
  content_empty _ hnone := content_union_of_forall_ne hnone
  draft_eq finding hmem kind hkey hadmits := by
    have hcontent := content_union_of_mem h hmem hkey
    rw [content_draft (by rwa [hcontent]), hcontent]
  draft_empty kind hnone := by
    have hcontent := content_union_of_forall_ne hnone
    rw [content_draft (by rw [hcontent]; exact kind.admits_empty), hcontent, Draft.content_empty]
  errors_eq := rfl
  draft_errors := rfl

/-- In another order of the findings only the diagnostics stand in another order. -/
theorem union_perm (hperm : findings.Perm others) (h : FitTogether findings) :
    union others = { union findings with errors := others.flatMap Finding.errors } := by
  have hcontent : (union others).content = (union findings).content := by
    funext kind
    simp only [union, find?_key_perm hperm h.nodup]
  exact congrArg (Assembly.mk · (others.flatMap Finding.errors)) hcontent

end Assembly

/-! ## Assemblies -/

/-- Whether findings fit together does not depend on their order. -/
theorem FitTogether.perm {findings others : List Finding} (h : FitTogether findings)
    (hperm : findings.Perm others) : FitTogether others where
  known finding hfinding := h.known finding (hperm.mem_iff.2 hfinding)
  nodup := (hperm.map Finding.key).nodup_iff.1 h.nodup

/-- Findings that fit together are assembled to their union. -/
theorem assemble_of_fitTogether {findings : List Finding} (h : FitTogether findings) :
    assemble findings = .ok (.union findings) := by
  have hnone : firstMisfit [] findings = none := firstMisfit_eq_none_iff.2 ⟨h, by simp⟩
  rw [assemble, hnone]

/-- Assembling fails exactly at the first misfit. -/
theorem assemble_eq_error_iff {findings : List Finding} {error : AssemblyError} :
    assemble findings = .error error ↔ firstMisfit [] findings = some error := by
  rw [assemble]
  cases firstMisfit [] findings <;> simp

/-- What becomes of findings that are assembled. -/
structure Assembles (findings : List Finding) : Prop where
  /-- There is an error exactly when a key is unknown or occurs twice. -/
  fails_iff : (∃ error, assemble findings = .error error) ↔
    (∃ finding ∈ findings, ¬ IsFieldKey finding.key) ∨ ¬ (findings.map Finding.key).Nodup
  /-- The error is about the first finding that does not fit to those before it. -/
  error_iff : ∀ error, assemble findings = .error error ↔
    ∃ before finding behind, findings = before ++ finding :: behind ∧
      FitTogether before ∧ Offends before finding error
  /-- The key of the diagnostics is unknown. -/
  errors_fail : ∀ finding ∈ findings, finding.key = Draft.Field.errors.key →
    ∃ error, assemble findings = .error error
  /-- Findings that fit together have a union. -/
  unites : FitTogether findings → ∃ assembly, assemble findings = .ok assembly ∧
    assembly.IsUnion findings
  /-- In another order they differ in the order of the diagnostics. -/
  perm : ∀ others assembly, findings.Perm others → assemble findings = .ok assembly →
    assemble others = .ok { assembly with errors := others.flatMap Finding.errors }

/-- Findings have a union that does not depend on their order, or the first misfit is told. -/
theorem assembles_union (findings : List Finding) : Assembles findings := by
  have hfails : (∃ error, assemble findings = .error error) ↔ ¬ FitTogether findings := by
    constructor
    · rintro ⟨error, herror⟩ h
      rw [assemble_of_fitTogether h] at herror
      cases herror
    · intro hnot
      cases hfirst : firstMisfit [] findings with
      | none => exact absurd (firstMisfit_eq_none_iff.1 hfirst).1 hnot
      | some error => exact ⟨error, assemble_eq_error_iff.2 hfirst⟩
  constructor
  · rw [hfails]
    constructor
    · intro hnot
      by_cases hknown : ∀ finding ∈ findings, IsFieldKey finding.key
      · exact .inr fun hnodup => hnot ⟨hknown, hnodup⟩
      · push Not at hknown
        exact .inl hknown
    · rintro (⟨finding, hmem, hunknown⟩ | hrepeated) h
      · exact hunknown (h.known finding hmem)
      · exact hrepeated h.nodup
  · intro error
    rw [assemble_eq_error_iff, firstMisfit_eq_some_iff]
  · intro finding hmem hkey
    rw [hfails]
    intro h
    have hknown := h.known finding hmem
    rw [hkey] at hknown
    exact not_isFieldKey_errors hknown
  · exact fun h => ⟨_, assemble_of_fitTogether h, Assembly.isUnion_union h⟩
  · intro others assembly hperm hok
    have h : FitTogether findings := by
      by_contra hnot
      rcases hfails.2 hnot with ⟨error, herror⟩
      rw [herror] at hok
      cases hok
    rw [assemble_of_fitTogether h] at hok
    cases hok
    rw [assemble_of_fitTogether (h.perm hperm), Assembly.union_perm hperm h]

end Wardley
