import Wardley.Proofs.Resolution.Accounting

/-!
# The place of every name

The table of a map is filled by three runs, of which two keep the entries that are there
and one replaces them, and the last run looks up a source under one name and enters it
under another.  What comes of this is said here without the table: a name stands where its
last projection does, else where its first element does, else where its first child does,
else nowhere.

Main definitions:

- `FirstOf`, `LastOf`: the first and the last entry of a list with a property.
- `Evolved.IsDrawnAs`: the name under which a projection is drawn.
- `Map.Places`: where a name stands.
- `Map.TellsPlaces`: a table holds the names that stand somewhere, each with its place.

Main results:

- `Index.mem_iff_get?`: a table without repeated names holds what is found in it.
- `Map.places_position?`, `Map.Places.unique`: a name stands where it is placed and nowhere else.
- `Map.index_tellsPlaces`: the table of a map tells where its names stand.
-/

namespace Wardley

/-! ## First and last entries -/

section Entries

variable {α : Type}

/-- The first entry of a list that has a property. -/
def FirstOf (p : α → Prop) (entries : List α) (entry : α) : Prop :=
  ∃ before behind, entries = before ++ entry :: behind ∧ p entry ∧ ∀ other ∈ before, ¬ p other

/-- The last entry of a list that has a property. -/
def LastOf (p : α → Prop) (entries : List α) (entry : α) : Prop :=
  ∃ before behind, entries = before ++ entry :: behind ∧ p entry ∧ ∀ other ∈ behind, ¬ p other

variable {p : α → Prop} {entries : List α} {entry other : α}

theorem FirstOf.mem (h : FirstOf p entries entry) : entry ∈ entries := by
  rcases h with ⟨before, behind, rfl, -, -⟩
  simp

theorem FirstOf.holds (h : FirstOf p entries entry) : p entry := by
  rcases h with ⟨-, -, -, hentry, -⟩
  exact hentry

/-- The first entry is the one that is found. -/
theorem firstOf_iff_find? {test : α → Bool} (htest : ∀ entry, test entry = true ↔ p entry) :
    FirstOf p entries entry ↔ entries.find? test = some entry := by
  rw [List.find?_eq_some_iff_append]
  constructor
  · rintro ⟨before, behind, hsplit, hentry, hbefore⟩
    refine ⟨(htest entry).2 hentry, before, behind, hsplit, fun other hother => ?_⟩
    rw [Bool.not_eq_true', Bool.eq_false_iff]
    exact mt (htest other).1 (hbefore other hother)
  · rintro ⟨hentry, before, behind, hsplit, hbefore⟩
    refine ⟨before, behind, hsplit, (htest entry).1 hentry, fun other hother hp => ?_⟩
    have := hbefore other hother
    rw [(htest other).2 hp] at this
    contradiction

/-- The last entry is the first one from behind. -/
theorem lastOf_iff_reverse : LastOf p entries entry ↔ FirstOf p entries.reverse entry := by
  constructor
  · rintro ⟨before, behind, rfl, hentry, hbehind⟩
    exact ⟨behind.reverse, before.reverse, by simp, hentry, by simpa using hbehind⟩
  · rintro ⟨before, behind, hsplit, hentry, hbefore⟩
    refine ⟨behind.reverse, before.reverse, ?_, hentry, by simpa using hbefore⟩
    rw [← List.reverse_reverse entries, hsplit]
    simp

theorem LastOf.mem (h : LastOf p entries entry) : entry ∈ entries :=
  List.mem_reverse.1 (lastOf_iff_reverse.1 h).mem

theorem LastOf.holds (h : LastOf p entries entry) : p entry :=
  (lastOf_iff_reverse.1 h).holds

open Classical in
/-- There is at most one first such entry. -/
theorem FirstOf.unique (h : FirstOf p entries entry) (hother : FirstOf p entries other) :
    entry = other := by
  have htest (entry : α) : decide (p entry) = true ↔ p entry := decide_eq_true_iff
  rw [firstOf_iff_find? htest] at h hother
  exact Option.some.inj (h.symm.trans hother)

/-- There is at most one last such entry. -/
theorem LastOf.unique (h : LastOf p entries entry) (hother : LastOf p entries other) :
    entry = other :=
  (lastOf_iff_reverse.1 h).unique (lastOf_iff_reverse.1 hother)

open Classical in
/-- A property that an entry has, a first entry has. -/
theorem exists_firstOf (p : α → Prop) (hmem : entry ∈ entries) (h : p entry) :
    ∃ first, FirstOf p entries first := by
  have htest (entry : α) : decide (p entry) = true ↔ p entry := decide_eq_true_iff
  have hsome : (entries.find? fun entry => decide (p entry)).isSome = true :=
    List.find?_isSome.2 ⟨entry, hmem, decide_eq_true h⟩
  rcases Option.isSome_iff_exists.1 hsome with ⟨first, hfirst⟩
  exact ⟨first, (firstOf_iff_find? htest).2 hfirst⟩

/-- Where there is such an entry, there is a last one. -/
theorem exists_lastOf (p : α → Prop) (hmem : entry ∈ entries) (h : p entry) :
    ∃ last, LastOf p entries last := by
  rcases exists_firstOf p (List.mem_reverse.2 hmem) h with ⟨last, hlast⟩
  exact ⟨last, lastOf_iff_reverse.2 hlast⟩

end Entries

/-! ## Tables without repeated names -/

namespace Index

variable {Name Value : Type} [BEq Name] [LawfulBEq Name] {index : Index Name Value}

/-- The names of a table after a name was entered. -/
theorem map_fst_enter (name : Name) (value : Value) (index : Index Name Value) :
    (enter name value index).map Prod.fst =
      if name ∈ index.map Prod.fst then index.map Prod.fst else index.map Prod.fst ++ [name] := by
  induction index with
  | nil => rfl
  | cons entry rest ih =>
      by_cases hname : name = entry.1
      · simp [enter, hname]
      · rw [enter, if_neg (by simpa using hname), List.map_cons, List.map_cons, ih]
        by_cases hmem : name ∈ rest.map Prod.fst
        · rw [if_pos hmem, if_pos (List.mem_cons_of_mem _ hmem)]
        · rw [if_neg hmem, if_neg (List.not_mem_cons_of_ne_of_not_mem hname hmem)]
          rfl

/-- Replacing leaves the same names as entering. -/
theorem map_fst_replace (name : Name) (value : Value) (index : Index Name Value) :
    (replace name value index).map Prod.fst = (enter name value index).map Prod.fst := by
  induction index with
  | nil => rfl
  | cons entry rest ih =>
      by_cases hname : name = entry.1
      · simp [enter, replace, hname]
      · simpa [enter, replace, hname] using ih

/-- No name of a table is entered twice. -/
def IsDistinct (index : Index Name Value) : Prop := (index.map Prod.fst).Nodup

/-- A first entry leaves the names distinct. -/
theorem IsDistinct.enter (h : index.IsDistinct) (name : Name) (value : Value) :
    (enter name value index).IsDistinct := by
  rw [IsDistinct, map_fst_enter]
  split
  · exact h
  · rename_i hnew
    rw [← List.concat_eq_append]
    exact List.Nodup.concat hnew h

/-- A replacement leaves the names distinct. -/
theorem IsDistinct.replace (h : index.IsDistinct) (name : Name) (value : Value) :
    (replace name value index).IsDistinct := by
  rw [IsDistinct, map_fst_replace]
  exact h.enter name value

/-- A table without repeated names holds what is found in it. -/
theorem mem_iff_get? (h : index.IsDistinct) {name : Name} {value : Value} :
    (name, value) ∈ index ↔ get? index name = some value := by
  induction index with
  | nil => simp [get?]
  | cons entry rest ih =>
      rcases entry with ⟨first, found⟩
      rw [IsDistinct, List.map_cons, List.nodup_cons] at h
      rw [List.mem_cons, get?, Prod.mk.injEq]
      by_cases hname : name = first
      · subst hname
        have hfresh : (name, value) ∉ rest := fun hmem => h.1 (List.mem_map.2 ⟨_, hmem, rfl⟩)
        simp [hfresh, eq_comm]
      · simp [hname, ih h.2]

end Index

/-! ## Where a name stands -/

/--
The name under which a projection is drawn: the one that is written for it, or that of its
source if none is written or an empty one.
-/
inductive Evolved.IsDrawnAs (evolved : Evolved) : String → Prop
  | override {name : String} (h : evolved.override = some name) (hne : name ≠ "") :
      IsDrawnAs evolved name
  | source (h : evolved.override = none ∨ evolved.override = some "") :
      IsDrawnAs evolved evolved.name

/-- A target is drawn under its display name. -/
theorem Evolved.isDrawnAs_iff {evolved : Evolved} {name : String} :
    evolved.IsDrawnAs name ↔ evolved.displayName = name := by
  constructor
  · rintro (⟨hname, hne⟩ | ⟨hnone | hempty⟩)
    · simp [displayName, hname, hne]
    · simp [displayName, hnone]
    · simp [displayName, hempty]
  · rintro rfl
    cases hoverride : evolved.override with
    | none =>
        rw [displayName, hoverride]
        exact .source (.inl hoverride)
    | some written =>
        by_cases hempty : written = ""
        · subst hempty
          rw [displayName, hoverride]
          exact .source (.inr hoverride)
        · have hwritten : evolved.displayName = written := by
            simp [displayName, hoverride, hempty]
          rw [hwritten]
          exact .override hoverride hempty

namespace Map

variable (map : Map) (name : String)

/-- The projection is drawn under the name, and its source is on the map. -/
def Projects (evolved : Evolved) : Prop :=
  evolved.IsDrawnAs name ∧ ∃ source ∈ map.elements, source.name = evolved.name

/-- The children of all pipelines, each with its pipeline. -/
def childrenOfPipelines : List (Pipeline × PipelineChild) :=
  map.pipelines.flatMap fun pipeline => pipeline.children.map fun child => (pipeline, child)

/-- Where a name stands on a map, if anywhere. -/
inductive Places : Option Position → Prop
  /-- The last projection of the name, as far up as the first element of its source. -/
  | projection {evolved : Evolved} {source : Element}
      (hlast : LastOf (map.Projects name) map.evolved evolved)
      (hsource : FirstOf (fun element => element.name = evolved.name) map.elements source) :
      Places (some ⟨evolved.maturity, source.visibility, true⟩)
  /-- The first element of the name. -/
  | element {element : Element}
      (hnone : ∀ evolved ∈ map.evolved, ¬ map.Projects name evolved)
      (hfirst : FirstOf (fun element => element.name = name) map.elements element) :
      Places (some ⟨element.maturity, element.visibility, false⟩)
  /-- The first child of the name, as far up as its pipeline. -/
  | child {pipeline : Pipeline} {child : PipelineChild}
      (hnone : ∀ evolved ∈ map.evolved, ¬ map.Projects name evolved)
      (helements : ∀ element ∈ map.elements, element.name ≠ name)
      (hfirst : FirstOf (fun entry => entry.2.name = name) map.childrenOfPipelines
        (pipeline, child)) :
      Places (some ⟨child.maturity, pipeline.visibility, false⟩)
  | nowhere
      (hnone : ∀ evolved ∈ map.evolved, ¬ map.Projects name evolved)
      (helements : ∀ element ∈ map.elements, element.name ≠ name)
      (hchildren : ∀ entry ∈ map.childrenOfPipelines, entry.2.name ≠ name) :
      Places none

variable {map name}

/-- A name stands in one place only. -/
theorem Places.unique {place other : Option Position} (h : map.Places name place)
    (hother : map.Places name other) : place = other := by
  cases h with
  | projection hlast hsource =>
      cases hother with
      | projection hlast' hsource' =>
          obtain rfl := hlast.unique hlast'
          rw [hsource.unique hsource']
      | element hnone | child hnone | nowhere hnone =>
          exact absurd hlast.holds (hnone _ hlast.mem)
  | element hnone hfirst =>
      cases hother with
      | projection hlast => exact absurd hlast.holds (hnone _ hlast.mem)
      | element _ hfirst' => rw [hfirst.unique hfirst']
      | child _ helements | nowhere _ helements =>
          exact absurd hfirst.holds (helements _ hfirst.mem)
  | child hnone helements hfirst =>
      cases hother with
      | projection hlast => exact absurd hlast.holds (hnone _ hlast.mem)
      | element _ hfirst' => exact absurd hfirst'.holds (helements _ hfirst'.mem)
      | child _ _ hfirst' =>
          cases hfirst.unique hfirst'
          rfl
      | nowhere _ _ hchildren => exact absurd hfirst.holds (hchildren _ hfirst.mem)
  | nowhere hnone helements hchildren =>
      cases hother with
      | projection hlast => exact absurd hlast.holds (hnone _ hlast.mem)
      | element _ hfirst => exact absurd hfirst.holds (helements _ hfirst.mem)
      | child _ _ hfirst => exact absurd hfirst.holds (hchildren _ hfirst.mem)
      | nowhere => rfl

/-! ## The table of a map -/

variable (map name)

/-- An evolution projects its source under a name, tested. -/
def projectsUnder (evolved : Evolved) : Bool :=
  evolved.displayName == name && (map.element? evolved.name).isSome

/-- The test for projections decides the projections. -/
theorem projectsUnder_iff (evolved : Evolved) :
    map.projectsUnder name evolved = true ↔ map.Projects name evolved := by
  rw [projectsUnder, Bool.and_eq_true, beq_iff_eq, Projects, Evolved.isDrawnAs_iff, element?,
    List.find?_isSome]
  simp only [beq_iff_eq]

/-- The place of a projection is that of the last evolution that projects under the name. -/
theorem find?_projections :
    (map.projections.reverse.find? fun entry => entry.1 == name).map Prod.snd =
      (map.evolved.reverse.find? (map.projectsUnder name)).bind fun evolved =>
        (map.element? evolved.name).map fun source =>
          ⟨evolved.maturity, source.visibility, true⟩ := by
  have htest (evolved : Evolved) :
      (((map.element? evolved.name).map fun source =>
        (evolved.displayName, (⟨evolved.maturity, source.visibility, true⟩ : Position))).any
          fun entry => entry.1 == name) = map.projectsUnder name evolved := by
    rw [projectsUnder]
    cases map.element? evolved.name <;> simp
  rw [projections, ← List.filterMap_reverse, List.find?_filterMap]
  simp only [htest]
  cases map.evolved.reverse.find? (map.projectsUnder name) with
  | none => rfl
  | some evolved => simp [Function.comp_def]

/-- The placed children are the children of the pipelines, at the height of their pipeline. -/
theorem placedChildren_eq :
    map.placedChildren = map.childrenOfPipelines.map fun entry =>
      (entry.2.name, ⟨entry.2.maturity, entry.1.visibility, false⟩) := by
  rw [placedChildren, childrenOfPipelines, List.map_flatMap]
  simp only [List.map_map]
  rfl

/-- A name is placed where it stands. -/
theorem places_position? : map.Places name (map.position? name) := by
  rw [position?_eq, find?_projections]
  cases hlast : map.evolved.reverse.find? (map.projectsUnder name) with
  | some evolved =>
      have hprojects : LastOf (map.Projects name) map.evolved evolved :=
        lastOf_iff_reverse.2 ((firstOf_iff_find? (map.projectsUnder_iff name)).2 hlast)
      rcases hprojects.holds with ⟨-, element, helement, hname⟩
      obtain ⟨source, hsource⟩ :=
        exists_firstOf (fun element => element.name = evolved.name) helement hname
      have hfound : map.element? evolved.name = some source :=
        (firstOf_iff_find? fun _ => beq_iff_eq).1 hsource
      rw [Option.bind_some, hfound]
      exact .projection hprojects hsource
  | none =>
      have hnone : ∀ evolved ∈ map.evolved, ¬ map.Projects name evolved := by
        intro evolved hevolved
        rw [← projectsUnder_iff]
        exact List.find?_eq_none.1 hlast evolved (List.mem_reverse.2 hevolved)
      rw [Option.bind_none, Option.none_or, List.find?_append, List.find?_map]
      cases hfirst : map.elements.find? ((fun entry => entry.1 == name) ∘ Element.placed) with
      | some element =>
          exact .element hnone ((firstOf_iff_find? fun _ => beq_iff_eq).2 hfirst)
      | none =>
          have helements : ∀ element ∈ map.elements, element.name ≠ name := by
            intro element helement
            simpa [Element.placed] using List.find?_eq_none.1 hfirst element helement
          rw [Option.map_none, Option.none_or, placedChildren_eq, List.find?_map]
          cases hchild : map.childrenOfPipelines.find? _ with
          | some entry =>
              exact .child hnone helements ((firstOf_iff_find? fun _ => beq_iff_eq).2 hchild)
          | none =>
              refine .nowhere hnone helements fun entry hentry => ?_
              simpa using List.find?_eq_none.1 hchild entry hentry

/-- The names of an index are distinct. -/
theorem isDistinct_index : map.index.IsDistinct := by
  have helements : map.indexElements.IsDistinct :=
    List.foldlRecOn (motive := Index.IsDistinct) map.elements _ List.nodup_nil
      fun _ h element _ => h.enter _ _
  have hchildren : map.namedIndex.IsDistinct :=
    List.foldlRecOn (motive := Index.IsDistinct) map.placedChildren _ helements
      fun _ h entry _ => h.enter _ _
  exact List.foldlRecOn (motive := Index.IsDistinct) map.projections _ hchildren
    fun _ h entry _ => h.replace _ _

/-- A table tells where the names of a map stand. -/
structure TellsPlaces (index : Index String Position) : Prop where
  isDistinct : index.IsDistinct
  mem_iff : ∀ name place, (name, place) ∈ index ↔ map.Places name (some place)
  notMem_iff : ∀ name, name ∉ index.map Prod.fst ↔ map.Places name none
  position?_eq_iff : ∀ name place, map.position? name = place ↔ map.Places name place

/-- The table of a map holds the names that stand somewhere, each with its place. -/
theorem index_tellsPlaces : map.TellsPlaces map.index := by
  have hplaces (name : String) (place : Option Position) :
      map.position? name = place ↔ map.Places name place :=
    ⟨fun h => h ▸ map.places_position? name, (map.places_position? name).unique⟩
  refine ⟨map.isDistinct_index, fun name place => ?_, fun name => ?_, hplaces⟩
  · rw [← hplaces, Index.mem_iff_get? map.isDistinct_index]
    rfl
  · rw [← hplaces, ← Index.isSome_get?_iff, Option.not_isSome_iff_eq_none]
    rfl

end Map

end Wardley
