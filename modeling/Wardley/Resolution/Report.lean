import Wardley.Resolution.Index

/-!
# Reports

A report counts what is on a map and lists the references that lead nowhere: links with
an end that has no place, evolutions and pipelines without an element, unknown addresses
and names that several elements carry.  Every kind of finding gives one warning.

Main definitions:

- `Report`, `Map.report`.
- `Report.warn`: adds a warning unless it is there.

Main results:

- `Map.isDeclared_eq`, `Map.hasUrl_eq`: the names of a map are those that are found on it.
-/

namespace Wardley

/-- Names without repetition, in increasing order. -/
def sortedNames (names : List String) : List String :=
  names.eraseDups.mergeSort fun a b => !decide (b < a)

/-- An inventory of a map and of its references that lead nowhere. -/
structure Report (Title Link : Type) where
  title : Title
  totalElements : Nat
  totalLinks : Nat
  totalPipelines : Nat
  totalDiagnostics : Nat
  danglingLinks : List Link
  missingEvolveTargets : List String
  pipelinesWithoutElement : List String
  unknownUrlReferences : List String
  duplicateNames : List String
  warnings : List String
  deriving DecidableEq, Repr

/-- Adds a warning unless it is there. -/
def Report.warn {Title Link : Type} (report : Report Title Link) (message : String) :
    Report Title Link :=
  if report.warnings.contains message then report
  else { report with warnings := report.warnings ++ [message] }

/-- The names of a list that stand in it before or are among those seen. -/
def repeatedNames {Name : Type} [BEq Name] (seen : List Name) : List Name → List Name
  | [] => []
  | name :: rest =>
    if seen.contains name then name :: repeatedNames seen rest
    else repeatedNames (name :: seen) rest

/-- A warning that lists texts after a heading; none for no texts. -/
def warningOf (heading : String) (texts : List String) : List String :=
  if texts.isEmpty then [] else [heading ++ ": " ++ String.intercalate ", " texts]

/-- The warnings of a report: one for every kind of finding. -/
def warningsOf (danglingLinks missingTargets pipelines references names : List String) :
    List String :=
  warningOf "Links to undeclared elements" danglingLinks
    ++ warningOf "Evolve of undeclared elements" missingTargets
    ++ warningOf "Pipelines without a matching element" pipelines
    ++ warningOf "Unknown url references" references
    ++ warningOf "Names declared more than once" names

namespace Map

/-- The name of a positioned element. -/
def isDeclared (map : Map) (name : String) : Bool := (map.elements.map Element.name).contains name

/-- The name of a declared address. -/
def hasUrl (map : Map) (name : String) : Bool := (map.urls.map Url.name).contains name

/-- A name is that of an element exactly when an element is found by it. -/
theorem isDeclared_eq (map : Map) (name : String) :
    map.isDeclared name = (map.element? name).isSome := by
  rw [Bool.eq_iff_iff, isDeclared, List.contains_iff_mem, List.mem_map, element?,
    List.find?_isSome]
  simp only [beq_iff_eq]

/-- A name is that of an address exactly when an address is found by it. -/
theorem hasUrl_eq (map : Map) (name : String) : map.hasUrl name = (map.url? name).isSome := by
  rw [Bool.eq_iff_iff, hasUrl, List.contains_iff_mem, List.mem_map, url?, List.find?_isSome]
  simp only [beq_iff_eq]

/-- The evolved names that no element carries. -/
def missingEvolveTargets (map : Map) : List String :=
  sortedNames ((map.evolved.map Evolved.name).filter fun name => !map.isDeclared name)

/-- The names of pipelines that no element carries. -/
def pipelinesWithoutElement (map : Map) : List String :=
  sortedNames ((map.pipelines.map Pipeline.name).filter fun name => !map.isDeclared name)

/-- The addresses that elements refer to and nobody declares. -/
def unknownUrlReferences (map : Map) : List String :=
  sortedNames ((map.elements.filterMap Element.url).filter fun name => !map.hasUrl name)

/-- The names that several elements carry. -/
def duplicateNames (map : Map) : List String :=
  sortedNames (repeatedNames [] (map.elements.map Element.name))

/-- The report of a map. -/
def report (map : Map) : Report String Link where
  title := map.title
  totalElements := map.elements.length
  totalLinks := map.links.length
  totalPipelines := map.pipelines.length
  totalDiagnostics := map.errors.length
  danglingLinks := map.danglingLinks
  missingEvolveTargets := map.missingEvolveTargets
  pipelinesWithoutElement := map.pipelinesWithoutElement
  unknownUrlReferences := map.unknownUrlReferences
  duplicateNames := map.duplicateNames
  warnings :=
    warningsOf (map.danglingLinks.map fun link => link.start ++ "->" ++ link.finish)
      map.missingEvolveTargets map.pipelinesWithoutElement map.unknownUrlReferences
      map.duplicateNames

end Map

end Wardley
