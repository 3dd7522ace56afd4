import Wardley.Proofs.Parsing.Consistency
import Wardley.Proofs.Resolution.Places

/-!
# Two views of an evolution

An element learns its maturity to come from the first evolution of its name.  The table of
positions draws under every name the last projection of that name.  Several evolutions of
one element are therefore told apart by the two views: the name of the first one is drawn
where the last evolution under this name says.

Main definitions:

- `Map.DrawsEvolution`: what an element says of its evolution and what is drawn of it.

Main results:

- `Map.places_of_lastOf`: a name is drawn at its last projection.
- `parse_drawsEvolution`: both views of the evolution of an element.
-/

namespace Wardley

open Notation

/-- A name is drawn at its last projection, if the source of this one is on the map. -/
theorem Map.places_of_lastOf {map : Map} {name : String} {last : Evolved} {source : Element}
    (hlast : LastOf (fun evolved => evolved.IsDrawnAs name) map.evolved last)
    (hsource : FirstOf (fun element => element.name = last.name) map.elements source) :
    map.position? name = some ⟨last.maturity, source.visibility, true⟩ := by
  have hprojects : LastOf (map.Projects name) map.evolved last := by
    rcases hlast with ⟨before, behind, hsplit, hdrawn, hbehind⟩
    refine ⟨before, behind, hsplit, ⟨hdrawn, source, hsource.mem, hsource.holds⟩, ?_⟩
    exact fun other hother hprojects => hbehind other hother hprojects.1
  exact (map.places_position? name).unique (.projection hprojects hsource)

/--
What an element says of its evolution and what is drawn of it: `taken` is the evolution that
tells the element its maturity to come, and `last` the last one that is drawn under the same
name as that.
-/
structure Map.DrawsEvolution (map : Map) (element : Element) (taken last : Evolved) : Prop where
  isTaken : FirstOf (fun evolved => evolved.name = element.name) map.evolved taken
  evolveMaturity_eq : element.evolveMaturity = some taken.maturity
  isLast : LastOf (fun evolved => evolved.IsDrawnAs taken.displayName) map.evolved last
  /-- Unless the name is that of another element's projection too, the last one is drawn. -/
  position?_eq :
    (∀ evolved ∈ map.evolved, evolved.IsDrawnAs taken.displayName →
      evolved.name = element.name) →
    ∃ source, FirstOf (fun other => other.name = element.name) map.elements source ∧
      map.position? taken.displayName = some ⟨last.maturity, source.visibility, true⟩
  /-- Then the views agree exactly if both evolutions have the same maturity. -/
  agrees_iff :
    (∀ evolved ∈ map.evolved, evolved.IsDrawnAs taken.displayName →
      evolved.name = element.name) →
    ((map.position? taken.displayName).map Position.maturity = element.evolveMaturity ↔
      last.maturity = taken.maturity)

/--
An element that evolves takes its maturity to come from the first evolution of its name,
and the name of this evolution is drawn at the last one that has it.
-/
theorem parse_drawsEvolution (switches : Switches) (text : String) {element : Element}
    (helement : element ∈ (parse switches text).elements) (hevolving : element.evolving = true) :
    ∃ taken last, (parse switches text).DrawsEvolution element taken last := by
  have hconsistent := consistent_unify switches (cleanLines text.toList)
  rw [← parse_eq_unify] at hconsistent
  rcases (hconsistent.evolving_iff element helement).1 hevolving with ⟨evolved, hevolved, hname⟩
  obtain ⟨taken, htaken⟩ :=
    exists_firstOf (fun evolved => evolved.name = element.name) hevolved hname
  have hmaturity : element.evolveMaturity = some taken.maturity := by
    rw [hconsistent.evolveMaturity_eq element helement,
      (firstOf_iff_find? fun _ => beq_iff_eq).1 htaken]
    rfl
  obtain ⟨last, hlast⟩ :=
    exists_lastOf (fun evolved => evolved.IsDrawnAs taken.displayName) htaken.mem
      (Evolved.isDrawnAs_iff.2 rfl)
  have hdrawn (hown : ∀ evolved ∈ (parse switches text).evolved,
        evolved.IsDrawnAs taken.displayName → evolved.name = element.name) :
      ∃ source, FirstOf (fun other => other.name = element.name)
          (parse switches text).elements source ∧
        (parse switches text).position? taken.displayName =
          some ⟨last.maturity, source.visibility, true⟩ := by
    have hsame : last.name = element.name := hown last hlast.mem hlast.holds
    obtain ⟨source, hsource⟩ :=
      exists_firstOf (fun other => other.name = element.name) helement rfl
    exact ⟨source, hsource, Map.places_of_lastOf hlast (hsame ▸ hsource)⟩
  refine ⟨taken, last, htaken, hmaturity, hlast, hdrawn, fun hown => ?_⟩
  rcases hdrawn hown with ⟨source, -, hposition⟩
  rw [hposition, hmaturity, Option.map_some, Option.some.injEq]

/-- A kettle evolves under three names; what is drawn as electric is its last evolution so named. -/
theorem parse_drawsEvolution_kettle :
    let map := parse .allOn ("component Kettle [0.4, 0.3]\nevolve Kettle->Electric 0.6\n" ++
      "evolve Kettle 0.8\nevolve Kettle->Electric 0.7\nevolve Kettle->Induction 0.9")
    map.elements.headI ∈ map.elements ∧ map.elements.headI.evolving = true ∧
      ∃ taken last, map.DrawsEvolution map.elements.headI taken last := by
  intro map
  have hmem : map.elements.headI ∈ map.elements := by decide +kernel
  have hevolving : map.elements.headI.evolving = true := by decide +kernel
  exact ⟨hmem, hevolving, parse_drawsEvolution .allOn _ hmem hevolving⟩

/-- Of two evolutions of tea, tea says what the first one does and is drawn at the second. -/
theorem later_evolution_drawn :
    let map := parse .allOn "component Tea [0.6, 0.2]\nevolve Tea 0.5\nevolve Tea 0.9"
    let tea := map.elements.headI
    tea ∈ map.elements ∧ tea.evolving = true ∧
      (map.evolved.find? fun evolved => evolved.name == tea.name).map Evolved.displayName =
        some "Tea" ∧
      (∀ evolved ∈ map.evolved, evolved.displayName = "Tea" → evolved.name = tea.name) ∧
      tea.evolveMaturity = some (.float (.ofDecimal ⟨false, 5, -1⟩)) ∧
      (map.position? "Tea").map Position.maturity = some (.float (.ofDecimal ⟨false, 9, -1⟩)) ∧
      (map.position? "Tea").map Position.maturity ≠ tea.evolveMaturity := by
  decide +kernel

end Wardley
