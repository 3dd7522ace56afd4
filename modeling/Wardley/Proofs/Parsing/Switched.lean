import Wardley.Proofs.Parsing.Draft

/-!
# Parts that are switched off

Each switch is read by the kind of construct that it stands for and by no other.  Without
contexts the links of a text are the same links, since the context is cut off before the
ends of a link are read.  Without accelerators their records and their run of diagnostics
are missing, and nothing else; their keywords stay reserved.

Main definitions:

- `Link.withoutContext`: a link without its context.

Main results:

- `contents_congr`: a kind only reads its own switch.
- `parse_linkContext_off`, `parse_accelerators_off`: the map of a text with a part switched
  off.
- `parse_switched`: what the two switches change.
-/

namespace Wardley

open Construct Notation

/-! ## Readings under other switches -/

/-- The contents of a kind only depend on the switch of the kind. -/
theorem contents_congr {switches other : Switches} {kind : Kind}
    (hblocks : kind = .pipelines → switches.newPipelines = other.newPipelines)
    (hcontext : kind = .links → switches.linkContext = other.linkContext)
    (hforces : kind = .accelerators → switches.accelerators = other.accelerators)
    (lines : List (Nat × List Char)) :
    kind.contents switches lines = kind.contents other lines := by
  cases kind with
  | pipelines => rw [Kind.contents, Kind.contents, hblocks rfl]
  | links => rw [Kind.contents, Kind.contents, hcontext rfl]
  | accelerators => rw [Kind.contents, Kind.contents, hforces rfl]
  | _ => rfl

/-- A link without its context. -/
def Link.withoutContext (link : Link) : Link := { link with context := none }

/-- Without contexts a line holds the same link, apart from its context. -/
theorem readLink?_false (keepContext : Bool) (number : Nat) (line : List Char) :
    readLink? false number line =
      (readLink? keepContext number line).map Link.withoutContext := by
  unfold readLink?
  dsimp only
  split
  · rfl
  · split <;> rfl

/-- Without contexts the same lines hold the same links. -/
theorem links_false (keepContext : Bool) (lines : List (Nat × List Char)) :
    links false lines = (links keepContext lines).map Link.withoutContext := by
  rw [links, links, List.map_filterMap]
  simp only [← readLink?_false keepContext]

/-! ## Maps under other switches -/

section Maps

variable (switches : Switches) (lines : List (Nat × List Char))

/-- The diagnostics of a text are the same without contexts. -/
theorem errors_contents_linkContext (keepContext : Bool) (kind : Kind) :
    (kind.contents { switches with linkContext := keepContext } lines).2 =
      (kind.contents switches lines).2 := by
  cases kind <;> rfl

/-- Without contexts the draft of a text has other links only. -/
theorem draftOf_linkContext_off :
    draftOf { switches with linkContext := false } lines =
      { draftOf switches lines with
        links := (draftOf switches lines).links.map Link.withoutContext } := by
  unfold draftOf
  simp only [errors_contents_linkContext, links_false switches.linkContext]

/-- The diagnostics of the kinds that are read before the accelerators. -/
def errorsBeforeAccelerators : List Diagnostic :=
  (Kind.all.takeWhile (· != .accelerators)).flatMap fun kind => (kind.contents switches lines).2

/-- The diagnostics of the kinds that are read behind the accelerators. -/
def errorsBehindAccelerators : List Diagnostic :=
  ((Kind.all.dropWhile (· != .accelerators)).drop 1).flatMap fun kind =>
    (kind.contents switches lines).2

/-- The accelerators have a run of their own among the diagnostics of a text. -/
theorem errors_draftOf :
    (draftOf switches lines).errors =
      errorsBeforeAccelerators switches lines
        ++ (Kind.accelerators.contents switches lines).2
        ++ errorsBehindAccelerators switches lines := by
  have hall : Kind.all = Kind.all.takeWhile (· != .accelerators) ++ [.accelerators] ++
      (Kind.all.dropWhile (· != .accelerators)).drop 1 := by decide
  have herrors := congrArg
    (List.flatMap fun kind : Kind => (kind.contents switches lines).2) hall
  rwa [List.flatMap_append, List.flatMap_append, List.flatMap_singleton] at herrors

/-- The kinds around the accelerators report the same without them. -/
theorem errors_around_accelerators_off :
    errorsBeforeAccelerators { switches with accelerators := false } lines =
        errorsBeforeAccelerators switches lines ∧
      errorsBehindAccelerators { switches with accelerators := false } lines =
        errorsBehindAccelerators switches lines :=
  ⟨rfl, rfl⟩

/-- Without accelerators the draft of a text lacks them and their diagnostics. -/
theorem draftOf_accelerators_off :
    draftOf { switches with accelerators := false } lines =
      { draftOf switches lines with
        accelerators := []
        errors := errorsBeforeAccelerators switches lines
          ++ errorsBehindAccelerators switches lines } := by
  rcases errors_around_accelerators_off switches lines with ⟨hbefore, hbehind⟩
  have hnone : (Kind.accelerators.contents { switches with accelerators := false } lines).2 = [] :=
    rfl
  have herrors := errors_draftOf { switches with accelerators := false } lines
  rw [hnone, List.append_nil, hbefore, hbehind] at herrors
  rw [← herrors]
  rfl

end Maps

/-! ## Maps of drafts -/

/-- The map of a draft with other links has those links. -/
theorem unify_withLinks (draft : Draft) (found : List Link) :
    ({ draft with links := found } : Draft).unify = { draft.unify with links := found } := rfl

/-- The map of a draft with other accelerators and diagnostics has those. -/
theorem unify_withAccelerators (draft : Draft) (found : List Accelerator)
    (reported : List Diagnostic) :
    ({ draft with accelerators := found, errors := reported } : Draft).unify =
      { draft.unify with accelerators := found, errors := reported } := rfl

@[simp] theorem links_unify (draft : Draft) : draft.unify.links = draft.links := rfl

/-! ## Maps of texts -/

section Texts

variable (switches : Switches) (text : String)

/-- Without contexts a text has the same map, apart from the contexts of the links. -/
theorem parse_linkContext_off :
    parse { switches with linkContext := false } text =
      { parse switches text with
        links := (parse switches text).links.map Link.withoutContext } := by
  rw [parse_eq_unify, parse_eq_unify, draftOf_linkContext_off, unify_withLinks, links_unify]

/-- Without accelerators a text has the same map, apart from them and their diagnostics. -/
theorem parse_accelerators_off :
    let lines := numbered (cleanLines text.toList)
    parse { switches with accelerators := false } text =
      { parse switches text with
        accelerators := []
        errors := errorsBeforeAccelerators switches lines
          ++ errorsBehindAccelerators switches lines } := by
  intro lines
  rw [parse_eq_unify, parse_eq_unify, draftOf_accelerators_off, unify_withAccelerators]

/-- Contexts apart, a text has the same links under all settings of both switches. -/
theorem links_parse_withoutContext (keepContext readForces : Bool) :
    (parse { switches with linkContext := keepContext, accelerators := readForces } text).links.map
        Link.withoutContext =
      (parse switches text).links.map Link.withoutContext := by
  have hlinks (some : Switches) : (parse some text).links.map Link.withoutContext =
      links false (numbered (cleanLines text.toList)) := by
    rw [parse_eq_unify, links_false some.linkContext]
    rfl
  rw [hlinks, hlinks]

end Texts

/-- What the switches of contexts and of accelerators change in the map of a text. -/
structure SwitchesApart (switches : Switches) (text : String) : Prop where
  /-- Without contexts each link keeps everything but its context. -/
  linkContext_off :
    parse { switches with linkContext := false } text =
      { parse switches text with
        links := (parse switches text).links.map Link.withoutContext }
  /-- The diagnostics of the reading of accelerators follow each other. -/
  errors_eq :
    let lines := numbered (cleanLines text.toList)
    (parse switches text).errors =
      errorsBeforeAccelerators switches lines
        ++ (Kind.accelerators.read switches (cleanLines text.toList)).errors
        ++ errorsBehindAccelerators switches lines
  /-- Without accelerators these are missing, and with them the diagnostics of their run. -/
  accelerators_off :
    let lines := numbered (cleanLines text.toList)
    parse { switches with accelerators := false } text =
      { parse switches text with
        accelerators := []
        errors := errorsBeforeAccelerators switches lines
          ++ errorsBehindAccelerators switches lines }
  /-- Contexts apart, the same lines hold the same links under all settings. -/
  links_eq : ∀ keepContext readForces : Bool,
    (parse { switches with linkContext := keepContext, accelerators := readForces } text).links.map
        Link.withoutContext =
      (parse switches text).links.map Link.withoutContext

/-- Neither of the two switches changes anything but its own part of the map of a text. -/
theorem parse_switched (switches : Switches) (text : String) : SwitchesApart switches text where
  linkContext_off := parse_linkContext_off switches text
  errors_eq := by
    rw [parse_eq_unify]
    exact errors_draftOf switches _
  accelerators_off := parse_accelerators_off switches text
  links_eq := links_parse_withoutContext switches text

/-- The line of an accelerator with an arrow is no link, even if accelerators are not read. -/
example :
    let map := parse { Switches.allOn with accelerators := false } "accelerator Tea->Cup [0.1, 0.2]"
    map.links = [] ∧ map.accelerators = [] ∧ map.errors = [] := by
  decide +kernel

end Wardley
