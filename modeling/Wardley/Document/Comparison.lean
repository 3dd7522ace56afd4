import Wardley.Document.Value

/-!
# Comparison of documents

Documents are equal when their leaves are, numbers by value; the order of the entries of a
mapping does not count.  Scalars of one sort are ordered, and lists of ordered items are
ordered like words in a dictionary.

Main definitions:

- `Document.same`: equality of documents.
- `Document.equals`: equality of values that are compared with each other directly.
- `Document.below?`: the order of documents that can be compared.
-/

namespace Wardley
namespace Document

/-! ## Equality -/

mutual

/-- Documents with equal leaves. -/
def same : Document → Document → Bool
  | scalar a, scalar b => a.same b
  | list a, list b => sameItems a b
  | mapping a, mapping b => a.length == b.length && sameEntries a b
  | _, _ => false

/-- Items that are the same one by one. -/
def sameItems : List Document → List Document → Bool
  | [], [] => true
  | a :: as, b :: bs => same a b && sameItems as bs
  | _, _ => false

/-- Entries of which each has the same value as the entry of its key among others. -/
def sameEntries : List (Scalar × Document) → List (Scalar × Document) → Bool
  | [], _ => true
  | (key, a) :: rest, others =>
    (match others.find? fun other => key.same other.1 with
      | some other => same a other.2
      | none => false)
    && sameEntries rest others

end

/-- The value is not a number. -/
def isNaN : Document → Bool
  | scalar (.number (.float (.nan _))) => true
  | _ => false

/-- Equality of values; what is not a number equals nothing, unless it stands in a list. -/
def equals (a b : Document) : Bool := !a.isNaN && a.same b

/-! ## Order -/

mutual

/-- The order of two documents, if they have one. -/
def below? : Document → Document → Option Bool
  | scalar a, scalar b => a.below? b
  | list a, list b => belowItems? a b
  | _, _ => none

/-- The order of two lists: that of the first items that differ, else that of the lengths. -/
def belowItems? : List Document → List Document → Option Bool
  | [], others => some (!others.isEmpty)
  | _ :: _, [] => some false
  | a :: as, b :: bs => if a.same b then belowItems? as bs else below? a b

end

/-- The first of two documents unless the second one is below it, if they can be compared. -/
def lower? (a b : Document) : Option Document :=
  (below? b a).map fun below => if below then b else a

/-- The first of two documents unless it is below the second one, if they can be compared. -/
def upper? (a b : Document) : Option Document :=
  (below? a b).map fun below => if below then b else a

end Document
end Wardley
