import Wardley.Document.Exchange
import Wardley.Proofs.Document.Requirements

/-!
# Documents of switches

Null and the mappings from names of switches to booleans give switches, and every other
document is refused.  The refusal reports what is wrong with the document: that it is no mapping,
which of its names are unknown, or which value is no boolean.  It can do so only if the unknown
names have an order and what it shows has a text; otherwise the report itself fails.

Main definitions:

- `Scalar.Comparable`: scalars of one order.
- `Switches.GivenBy`, `Switches.Refuses`: the switches that a document gives, and the reasons for
  which it gives none.
- `Switches.IsReportable`: a report can tell why the document is refused.
- `Switches.Decides`, `Switches.DecidesText`: what is read of a document and of a text.

Main results:

- `Scalar.areOrdered_iff`: scalars are sorted if any two of them are comparable.
- `Switches.override_cases`: entries that name switches override them up to a value that is no
  boolean.
- `Switches.ofDocument_cases`, `Switches.ofDocument_eq_ok_iff`: a document gives switches, or there
  is a reason for which it gives none.
- `Switches.readings_decide`: the switches of every document, and of every text by any codec.
- `Switches.mixed_names_unreported`: a mapping that is refused without a report.
-/

namespace Wardley

open Document

/-! ## Names with an order -/

namespace Scalar

/-- The sorts of scalars that are ordered among each other. -/
inductive Family where
  | text
  | number
  | day
  | moment (zoned : Bool)
  deriving DecidableEq, Repr

/-- The family of a scalar; null has none, and a boolean counts as a number. -/
def family? : Scalar → Option Family
  | null => none
  | bool _ | number _ => some .number
  | text _ => some .text
  | timestamp (.day _) => some .day
  | timestamp (.moment moment) => some (.moment moment.offset.isSome)

/-- Two scalars belong to one family. -/
def Comparable (a b : Scalar) : Prop := ∃ family, a.family? = some family ∧ b.family? = some family

section Comparable

variable {a b c : Scalar}

theorem Comparable.symm (h : a.Comparable b) : b.Comparable a := by
  rcases h with ⟨family, ha, hb⟩
  exact ⟨family, hb, ha⟩

theorem Comparable.trans (h : a.Comparable b) (h' : b.Comparable c) : a.Comparable c := by
  rcases h with ⟨family, ha, hb⟩
  rcases h' with ⟨family', hb', hc⟩
  obtain rfl : family = family' := Option.some.inj (hb.symm.trans hb')
  exact ⟨family, ha, hc⟩

/-- Two scalars have an order exactly if they are comparable. -/
theorem isSome_below?_iff : (below? a b).isSome = true ↔ a.Comparable b := by
  rcases a with _ | _ | _ | _ | (_ | first) <;> rcases b with _ | _ | _ | _ | (_ | second)
  all_goals simp [below?, Comparable, family?, asNumber?, Timestamp.below?]
  -- two points in time are left
  rw [eq_comm]

end Comparable

/-- Scalars are sorted if any two of them are comparable. -/
theorem areOrdered_iff (scalars : List Scalar) :
    areOrdered scalars = true ↔ scalars.Pairwise Comparable := by
  cases scalars with
  | nil => simp [areOrdered]
  | cons first others =>
      simp only [areOrdered, List.all_eq_true, isSome_below?_iff, List.pairwise_cons]
      refine ⟨fun hfirst => ⟨hfirst, ?_⟩, And.left⟩
      rw [List.pairwise_iff_forall_sublist]
      intro a b hsublist
      have ha := hfirst a (hsublist.subset (by simp))
      have hb := hfirst b (hsublist.subset (by simp))
      exact ha.symm.trans hb

/-- Sorted scalars are the given ones in another order. -/
theorem sort?_eq_some {scalars sorted : List Scalar} (h : sort? scalars = some sorted) :
    scalars.Pairwise Comparable ∧ sorted.Perm scalars := by
  rw [sort?] at h
  split at h
  · rename_i hordered
    cases h
    exact ⟨(areOrdered_iff _).1 hordered, List.mergeSort_perm _ _⟩
  · cases h

/-- Only keys of which two cannot be compared have no order. -/
theorem sort?_eq_none {scalars : List Scalar} (h : sort? scalars = none) :
    ¬ scalars.Pairwise Comparable := by
  rw [sort?] at h
  split at h
  · cases h
  · rename_i hordered
    exact mt (areOrdered_iff _).2 hordered

end Scalar

/-! ## Switches of a document -/

/-- The error tells what is wrong with a document; the others are failures to tell it. -/
def ConfigError.IsReport : ConfigError → Prop
  | .noMapping _ | .unknownNames _ | .noBoolean _ _ | .malformed => True
  | .unorderedNames | .unwritable _ | .literal _ => False

namespace Switches

/-- The entry sets a switch to a boolean. -/
def IsFlag (entry : Scalar × Document) : Prop :=
  ∃ name ∈ names, ∃ flag, entry = (.text name, .bool flag)

/-- The boolean that an entry sets a switch to. -/
def flagUnder (name : String) : Scalar × Document → Option Bool
  | (.text found, .scalar (.bool flag)) => if found = name then some flag else none
  | _ => none

/-- The flag of a switch: the last entry that sets it decides, else the standard flag. -/
def flagOf (entries : List (Scalar × Document)) (standard : Bool) (name : String) : Bool :=
  (entries.filterMap (flagUnder name)).getLast?.getD standard

/-- Switches overridden by the entries that set them. -/
def overridden (switches : Switches) (entries : List (Scalar × Document)) : Switches where
  newPipelines := flagOf entries switches.newPipelines "enable_new_pipelines"
  linkContext := flagOf entries switches.linkContext "enable_link_context"
  accelerators := flagOf entries switches.accelerators "enable_accelerators"

/-- Null gives the standard switches, and a mapping to booleans overrides them. -/
def GivenBy (document : Document) (switches : Switches) : Prop :=
  (document = .null ∧ switches = allOn) ∨
  ∃ entries, document = .mapping entries ∧ (∀ entry ∈ entries, IsFlag entry) ∧
    switches = allOn.overridden entries

/-- The keys of entries that name no switch. -/
def unknownNames (entries : List (Scalar × Document)) : List Scalar :=
  (keys entries).filter fun key => !isName key

/-- The first entry whose value is no boolean. -/
def FirstOther (entries : List (Scalar × Document)) (name : String) (value : Document) : Prop :=
  entries.find? (fun entry => !Leaf.flag.admits entry.2) = some (.text name, value)

/-- The reasons for which a document gives no switches; an unknown name is found before a value. -/
inductive Refuses : Document → ConfigError → Prop where
  | noMapping {document : Document} (hnull : document ≠ .null)
      (hmapping : ∀ entries, document ≠ .mapping entries) :
      Refuses document (.noMapping document.typeName)
  | unorderedNames {entries : List (Scalar × Document)}
      (hnames : ¬ (unknownNames entries).Pairwise Scalar.Comparable) :
      Refuses (.mapping entries) .unorderedNames
  | unwritableName {entries : List (Scalar × Document)}
      (hnames : (unknownNames entries).Pairwise Scalar.Comparable) {name : Scalar}
      (hname : name ∈ unknownNames entries) (htext : name.hasText = false) :
      Refuses (.mapping entries) (.unwritable .tooManyDigits)
  | unknownNames {entries : List (Scalar × Document)} {sorted : List Scalar}
      (hnames : (unknownNames entries).Pairwise Scalar.Comparable)
      (hperm : sorted.Perm (unknownNames entries)) (hne : sorted ≠ [])
      (htext : ∀ name ∈ sorted, name.hasText = true) :
      Refuses (.mapping entries) (.unknownNames sorted)
  | unwritableValue {entries : List (Scalar × Document)} (hnames : unknownNames entries = [])
      {name : String} {value : Document} (hfirst : FirstOther entries name value)
      (htext : value.hasText = false) : Refuses (.mapping entries) (.unwritable .tooManyDigits)
  | noBoolean {entries : List (Scalar × Document)} (hnames : unknownNames entries = [])
      {name : String} {value : Document} (hfirst : FirstOther entries name value)
      (htext : value.hasText = true) : Refuses (.mapping entries) (.noBoolean name value)

/-! ## Entries that override switches -/

/-- The leaf of a flag admits exactly the two booleans. -/
theorem admits_flag_iff {document : Document} :
    Leaf.flag.admits document = true ↔ ∃ flag, document = .bool flag := by
  unfold Leaf.admits
  split <;> simp_all [Document.bool]

/-- A key names a switch exactly when it is the text of one of the names. -/
theorem isName_iff {key : Scalar} : isName key = true ↔ ∃ name ∈ names, key = .text name := by
  cases key <;> simp [isName]

section Override

variable (switches : Switches)

/-- An entry settles the flag of its own name and no other. -/
theorem flagOf_cons (name wanted : String) (flag standard : Bool)
    (rest : List (Scalar × Document)) :
    flagOf ((.text name, .bool flag) :: rest) standard wanted =
      flagOf rest (if name = wanted then flag else standard) wanted := by
  by_cases h : name = wanted
  · simp [flagOf, flagUnder, Document.bool, h, List.getLast?_cons]
  · simp [flagOf, flagUnder, Document.bool, h]

/-- Setting a switch by its name leaves the others as they are. -/
theorem set_eq {name : String} (hname : name ∈ names) (flag : Bool) :
    switches.set name flag = {
      newPipelines := if name = "enable_new_pipelines" then flag else switches.newPipelines
      linkContext := if name = "enable_link_context" then flag else switches.linkContext
      accelerators := if name = "enable_accelerators" then flag else switches.accelerators } := by
  simp only [names, List.mem_cons, List.not_mem_nil, or_false] at hname
  rcases hname with rfl | rfl | rfl <;> simp [set]

/-- An entry that sets a switch overrides it before the other entries. -/
theorem overridden_cons {name : String} (hname : name ∈ names) (flag : Bool)
    (rest : List (Scalar × Document)) :
    switches.overridden ((.text name, .bool flag) :: rest) =
      (switches.set name flag).overridden rest := by
  simp only [overridden, flagOf_cons, set_eq switches hname]

/-- Entries that name switches override them, unless one of the values is no boolean. -/
theorem override_cases {entries : List (Scalar × Document)}
    (hnames : ∀ entry ∈ entries, isName entry.1 = true) :
    ((∀ entry ∈ entries, IsFlag entry) ∧
      override switches entries = .ok (switches.overridden entries)) ∨
    ∃ name value, FirstOther entries name value ∧
      override switches entries =
        .error (if value.hasText then .noBoolean name value else .unwritable .tooManyDigits) := by
  induction entries generalizing switches with
  | nil => exact .inl ⟨by simp, rfl⟩
  | cons entry rest ih =>
      obtain ⟨key, value⟩ := entry
      rcases List.forall_mem_cons.1 hnames with ⟨hkey, hrest⟩
      rcases isName_iff.1 hkey with ⟨name, hname, rfl⟩
      cases hflag : Leaf.flag.admits value with
      | true =>
          rcases admits_flag_iff.1 hflag with ⟨flag, rfl⟩
          have hstep : override switches ((.text name, .bool flag) :: rest) =
              override (switches.set name flag) rest := rfl
          rw [hstep, overridden_cons switches hname]
          rcases ih (switches.set name flag) hrest with
            ⟨hflags, hread⟩ | ⟨other, found, hfirst, hread⟩
          · exact .inl ⟨List.forall_mem_cons.2 ⟨⟨name, hname, flag, rfl⟩, hflags⟩, hread⟩
          · exact .inr ⟨other, found, hfirst, hread⟩
      | false =>
          have hfirst : FirstOther ((.text name, value) :: rest) name value :=
            List.find?_cons_of_pos (by simp [hflag])
          refine .inr ⟨name, value, hfirst, ?_⟩
          unfold override
          split
          · cases hflag
          · rename_i heq _
            cases heq
            rfl
          · rename_i hnot _
            exact (hnot name rfl).elim

end Override

/-! ## Readings of documents -/

section Readings

variable {document : Document} {entries : List (Scalar × Document)} {switches : Switches}

/-- No key is unknown exactly when every key names a switch. -/
theorem unknownNames_eq_nil_iff :
    unknownNames entries = [] ↔ ∀ entry ∈ entries, isName entry.1 = true := by
  simp [unknownNames, keys, List.filter_eq_nil_iff]

/-- A mapping with unknown names is refused for them, whatever its values are. -/
theorem ofDocument_unknown (hnames : unknownNames entries ≠ []) :
    ∃ error, ofDocument (.mapping entries) = .error error ∧ Refuses (.mapping entries) error := by
  unfold ofDocument
  dsimp only
  split
  · exact (hnames (List.isEmpty_iff.1 ‹_›)).elim
  split
  · rename_i sorted hsort
    obtain ⟨hcomparable, hperm⟩ := Scalar.sort?_eq_some hsort
    refine ⟨_, rfl, ?_⟩
    by_cases htext : sorted.all Scalar.hasText
    · rw [if_pos htext]
      have hne : sorted ≠ [] := fun h => hnames (List.nil_perm.1 (h ▸ hperm))
      exact .unknownNames hcomparable hperm hne (List.all_eq_true.1 htext)
    · rw [if_neg htext]
      obtain ⟨name, hname, hnot⟩ : ∃ name ∈ sorted, Scalar.hasText name = false := by
        simpa using htext
      exact .unwritableName hcomparable (hperm.mem_iff.1 hname) hnot
  · rename_i hsort
    exact ⟨_, rfl, .unorderedNames (Scalar.sort?_eq_none hsort)⟩

/-- A document gives switches, or there is a reason for which it gives none. -/
theorem ofDocument_cases (document : Document) :
    (∃ switches, ofDocument document = .ok switches ∧ GivenBy document switches) ∨
    ∃ error, ofDocument document = .error error ∧ Refuses document error := by
  by_cases hnull : document = .null
  · subst hnull
    exact .inl ⟨allOn, rfl, .inl ⟨rfl, rfl⟩⟩
  by_cases hmapping : ∃ entries, document = .mapping entries
  · obtain ⟨entries, rfl⟩ := hmapping
    by_cases hnames : unknownNames entries = []
    · have hread : ofDocument (.mapping entries) = override allOn entries := by
        unfold ofDocument
        exact if_pos (List.isEmpty_iff.2 hnames)
      rcases override_cases allOn (unknownNames_eq_nil_iff.1 hnames) with
        ⟨hflags, hok⟩ | ⟨name, value, hfirst, herror⟩
      · exact .inl ⟨_, hread.trans hok, .inr ⟨entries, rfl, hflags, rfl⟩⟩
      · refine .inr ⟨_, hread.trans herror, ?_⟩
        cases htext : value.hasText with
        | true => exact .noBoolean hnames hfirst htext
        | false => exact .unwritableValue hnames hfirst htext
    · exact .inr (ofDocument_unknown hnames)
  · refine .inr ⟨.noMapping document.typeName, ?_,
      .noMapping hnull fun entries h => hmapping ⟨entries, h⟩⟩
    unfold ofDocument
    split
    · exact (hnull rfl).elim
    · exact (hmapping ⟨_, rfl⟩).elim
    · rfl

/-- No reason refuses a mapping from names of switches to booleans. -/
theorem not_refuses_of_flags {error : ConfigError} (hflags : ∀ entry ∈ entries, IsFlag entry) :
    ¬ Refuses (.mapping entries) error := by
  intro hrefuses
  have hnames : unknownNames entries = [] := by
    refine unknownNames_eq_nil_iff.2 fun entry hentry => ?_
    rcases hflags entry hentry with ⟨name, hname, flag, rfl⟩
    exact isName_iff.2 ⟨name, hname, rfl⟩
  have hvalues {name : String} {value : Document} : ¬ FirstOther entries name value := by
    intro hfirst
    have hother := List.find?_some hfirst
    rcases hflags _ (List.mem_of_find?_eq_some hfirst) with ⟨_, _, flag, hentry⟩
    cases hentry
    cases hother
  cases hrefuses with
  | noMapping hnull hmapping => exact hmapping entries rfl
  | unorderedNames h => exact h (by simp [hnames])
  | unwritableName _ hname _ => simp [hnames] at hname
  | unknownNames _ hperm hne _ => exact hne (List.perm_nil.1 (hnames ▸ hperm))
  | unwritableValue _ hfirst _ => exact hvalues hfirst
  | noBoolean _ hfirst _ => exact hvalues hfirst

/-- A document is read to the switches that it gives. -/
theorem ofDocument_eq_ok_iff : ofDocument document = .ok switches ↔ GivenBy document switches := by
  constructor
  · intro hread
    rcases ofDocument_cases document with ⟨found, hfound, hgiven⟩ | ⟨error, herror, _⟩
    · cases hread.symm.trans hfound
      exact hgiven
    · cases hread.symm.trans herror
  · rintro (⟨rfl, rfl⟩ | ⟨entries, rfl, hflags, rfl⟩)
    · rfl
    · rcases ofDocument_cases (.mapping entries) with ⟨found, hfound, hgiven⟩ | ⟨_, _, hrefuses⟩
      · rcases hgiven with ⟨hnull, _⟩ | ⟨_, hentries, _, rfl⟩
        · cases hnull
        · cases hentries
          exact hfound
      · exact (not_refuses_of_flags hflags hrefuses).elim

end Readings

/-! ## Reports -/

/-- What a report of the document shows can be sorted and has a text. -/
def IsReportable (document : Document) : Prop :=
  ∀ entries, document = .mapping entries →
    (unknownNames entries).Pairwise Scalar.Comparable ∧
    (∀ name ∈ unknownNames entries, name.hasText = true) ∧
    (unknownNames entries = [] → ∀ name value, FirstOther entries name value →
      value.hasText = true)

/-- Where a document is refused, the error is a report exactly when the document is reportable. -/
theorem isReport_iff {document : Document} {error : ConfigError} (h : Refuses document error) :
    error.IsReport ↔ IsReportable document := by
  cases h with
  | noMapping _ hmapping =>
      simp only [ConfigError.IsReport, true_iff]
      exact fun entries h => (hmapping entries h).elim
  | unorderedNames hnames =>
      simp only [ConfigError.IsReport, false_iff]
      exact fun h => hnames (h _ rfl).1
  | unwritableName _ hname htext =>
      simp only [ConfigError.IsReport, false_iff]
      intro h
      exact Bool.false_ne_true (htext.symm.trans ((h _ rfl).2.1 _ hname))
  | unknownNames hnames hperm hne htext =>
      simp only [ConfigError.IsReport, true_iff]
      rintro _ ⟨⟩
      refine ⟨hnames, fun name hname => htext name (hperm.mem_iff.2 hname), fun hnone => ?_⟩
      exact (hne (List.perm_nil.1 (hnone ▸ hperm))).elim
  | unwritableValue hnames hfirst htext =>
      simp only [ConfigError.IsReport, false_iff]
      intro h
      exact Bool.false_ne_true (htext.symm.trans ((h _ rfl).2.2 hnames _ _ hfirst))
  | noBoolean hnames hfirst htext =>
      simp only [ConfigError.IsReport, true_iff]
      rintro _ ⟨⟩
      refine ⟨by simp [hnames], by simp [hnames], fun _ name value hother => ?_⟩
      cases hfirst.symm.trans hother
      exact htext

/-! ## What is read of every document -/

/-- A reading gives the switches of a document or refuses it for a reason, and reports the reason
exactly if that is possible. -/
structure Decides (document : Document) (result : Except ConfigError Switches) : Prop where
  given : ∀ switches, result = .ok switches ↔ GivenBy document switches
  refused : (¬ ∃ switches, GivenBy document switches) →
    ∃ error, result = .error error ∧ Refuses document error ∧
      (error.IsReport ↔ IsReportable document)

/-- A reading of a text decides on the document that a codec loads from it, and reports a text from
which the codec loads none. -/
structure DecidesText (codec : YamlCodec) (text : String) (result : Except ConfigError Switches) :
    Prop where
  read : ∀ document, codec.load text = .ok document → Decides document result
  malformed : codec.load text = .error .malformed → ∃ error, result = .error error ∧ error.IsReport

/-- The reader of a decoded document decides every document. -/
theorem decides_ofDocument (document : Document) : Decides document (ofDocument document) where
  given _ := ofDocument_eq_ok_iff
  refused hnone := by
    rcases ofDocument_cases document with ⟨switches, _, hgiven⟩ | ⟨error, herror, hrefuses⟩
    · exact (hnone ⟨switches, hgiven⟩).elim
    · exact ⟨error, herror, hrefuses, isReport_iff hrefuses⟩

/-- Null and mappings to booleans give switches; every other document is refused, with a report
exactly if its unknown names are sorted and what the report shows has a text.  The same holds of
texts, whatever codec loads them. -/
theorem readings_decide (document : Document) (codec : YamlCodec) (text : String) :
    Decides document (ofDocument document) ∧ DecidesText codec text (codec.readSwitches text) := by
  refine ⟨decides_ofDocument document, fun found hread => ?_, fun hread => ?_⟩
  · have hfound : codec.readSwitches text = ofDocument found := by
      rw [YamlCodec.readSwitches, hread]
    rw [hfound]
    exact decides_ofDocument found
  · refine ⟨.malformed, ?_, trivial⟩
    rw [YamlCodec.readSwitches, hread]

/-- A mapping of which one key is a number and another a text is refused without a report. -/
theorem mixed_names_unreported :
    ¬ ∃ error, ofDocument (.mapping [(.number (.int 1), .bool true), (.text "a", .bool true)]) =
      .error error ∧ error.IsReport := by
  have hread : ofDocument (.mapping [(.number (.int 1), .bool true), (.text "a", .bool true)]) =
      .error .unorderedNames := rfl
  rintro ⟨error, herror, hreport⟩
  cases hread.symm.trans herror
  exact hreport

end Switches
end Wardley
