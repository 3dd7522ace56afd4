import Wardley.Parsing.Run

/-!
# An example map

A small map that touches every construct of the notation: anchors, components with
decorators and inertia, links of each kind, a pipeline, evolutions with and without a
name of their own, notes, annotations, attitudes, accelerators, a submap with its
address and labels of the evolution axis.
-/

namespace Wardley

/-- The lines of the example. -/
def exampleLines : List String :=
  ["title Tea Shop",
   "// A classic example, extended",
   "style wardley",
   "evolution Uncharted->Emerging->Good->Best&(+commodity)",
   "",
   "anchor Business [0.95, 0.63]",
   "anchor Public [0.95, 0.78]",
   "",
   "component Cup of Tea [0.79, 0.61] label [19, -4]",
   "component Cup [0.73, 0.78]",
   "component Tea [0.63, 0.81]",
   "component Hot Water [0.52, 0.80]",
   "component Water [0.38, 0.82]",
   "component Kettle [0.43, 0.35] label [-57, 4] inertia",
   "component Power [0.10, 0.70] label [-27, 20] (outsource)",
   "component Tea Leaf Suppliers [0.55, 0.90] (market)",
   "",
   "/* Kettle options",
   "   are kept in a pipeline */",
   "pipeline Kettle",
   "\x7b",
   "  component Campfire Kettle [0.35] label [-60, 35]",
   "  component Electric Kettle [0.53] label [-1, 35]",
   "\x7d",
   "",
   "submap Staff [0.60, 0.45] url(staffUrl)",
   "url staffUrl [https://example.com/maps/staff]",
   "",
   "evolve Kettle->Electric Kettle 0.62 label [16, 5]",
   "evolve Power 0.89 label [-12, 21]",
   "",
   "Business->Cup of Tea",
   "Public->Cup of Tea",
   "Cup of Tea->Cup",
   "Cup of Tea->Tea",
   "Cup of Tea->Hot Water; boiling only",
   "Hot Water->Water",
   "Hot Water->Kettle",
   "Kettle->Power",
   "Water+>Hot Water",
   "Tea Leaf Suppliers+'bulk'>Tea",
   "",
   "note Standardising power allows Kettles to evolve faster [0.30, 0.49]",
   "annotation 1 [[0.43, 0.49], [0.08, 0.79]] Standardising power allows Kettles to evolve faster",
   "annotation 2 [0.48, 0.85] Hot water is obvious and well known",
   "annotations [0.72, 0.03]",
   "",
   "pioneers [0.90, 0.05] 120 40",
   "settlers [0.55, 0.40, 0.35, 0.60]",
   "accelerator Kettle Regulation [0.30, 0.40]",
   "deaccelerator Habit [0.70, 0.70]",
   "build Cup of Tea"]

/-- The text of the example; its last line is ended too. -/
def exampleText : String := String.intercalate "\n" exampleLines ++ "\n"

/-- The example map. -/
def exampleMap (switches : Switches) : Map := parse switches exampleText

end Wardley
