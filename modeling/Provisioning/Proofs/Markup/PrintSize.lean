import Provisioning.Markup.Printer
import Provisioning.Proofs.Text.Size

/-!
# How large a document is

The lines of a tree are counted in bytes: two names and five marks for each element, four marks for
each attribute, two spaces for each level above, and what its texts take once their special characters
are written as entities. Every builder of elements has its count, so the size of a message is read
off the way it is built.
-/

namespace Provisioning.Markup

open Text
open String (utf8Len utf8Len_nil utf8Len_cons utf8Len_append utf8Len_toList utf8ByteSize_ofList)

/-! ## Written texts -/

/-- A character is written in no more than six times its bytes: the longest entities stand for
characters of one byte. -/
theorem utf8Len_escapeChar (c : Char) :
    c.utf8Size ≤ utf8Len (escapeChar c) ∧ utf8Len (escapeChar c) ≤ 6 * c.utf8Size := by
  by_cases hspecial : c ∈ ['<', '>', '&', '\'', '"']
  · simp only [List.mem_cons, List.not_mem_nil, or_false] at hspecial
    rcases hspecial with rfl | rfl | rfl | rfl | rfl <;> decide
  · have hself : escapeChar c = [c] := by
      simp only [List.mem_cons, List.not_mem_nil, or_false, not_or] at hspecial
      simp [escapeChar, hspecial]
    rw [hself, utf8Len_cons, utf8Len_nil]
    omega

theorem utf8Len_escape_le (cs : List Char) : utf8Len (escape cs) ≤ 6 * utf8Len cs := by
  induction cs with
  | nil => exact Nat.le_refl _
  | cons c cs ih =>
      have hc := (utf8Len_escapeChar c).2
      rw [escape, List.flatMap_cons, ← escape, utf8Len_append, utf8Len_cons]
      omega

/-- The bytes of a text as it is written. -/
def writtenSize (s : String) : Nat := utf8Len (escape s.toList)

@[simp] theorem writtenSize_empty : writtenSize "" = 0 := rfl

theorem writtenSize_le (s : String) : writtenSize s ≤ 6 * s.utf8ByteSize := by
  rw [writtenSize, ← utf8Len_toList]
  exact utf8Len_escape_le s.toList

namespace Element

/-! ## Attributes and lines -/

theorem utf8Len_indent (depth : Nat) : utf8Len (indent depth) = 2 * depth := by
  have hspaces : ∀ n, utf8Len (List.replicate n ' ') = n := by
    intro n
    induction n with
    | zero => rfl
    | succ n ih => rw [List.replicate_succ, utf8Len_cons, ih]; rfl
  exact hspaces (2 * depth)

/-- The bytes of the attributes of a tag. -/
def attrsSize (attrs : List (String × String)) : Nat := utf8Len (printAttrs attrs)

@[simp] theorem attrsSize_nil : attrsSize [] = 0 := rfl

@[simp] theorem attrsSize_cons (a : String × String) (as : List (String × String)) :
    attrsSize (a :: as) = 4 + a.1.utf8ByteSize + writtenSize a.2 + attrsSize as := by
  have hmarks : ' '.utf8Size = 1 ∧ '='.utf8Size = 1 ∧ '"'.utf8Size = 1 := ⟨rfl, rfl, rfl⟩
  simp only [attrsSize, writtenSize, printAttrs, List.flatMap_cons, List.cons_append, utf8Len_append,
    utf8Len_cons, utf8Len_nil, utf8Len_toList, hmarks]
  omega

@[simp] theorem attrsSize_append (as bs : List (String × String)) :
    attrsSize (as ++ bs) = attrsSize as + attrsSize bs := by
  rw [attrsSize, printAttrs, List.flatMap_append, utf8Len_append]
  rfl

/-- The bytes of an element at a depth. -/
def size (depth : Nat) (e : Element) : Nat := utf8Len (print depth e)

/-- The bytes of the children of an element at a depth, and of the line that follows them. -/
def childrenSize (depth : Nat) (es : List Element) : Nat := utf8Len (printChildren depth es)

/-- The bytes of a row of elements, each on a line of its own. -/
def linesSize (depth : Nat) (es : List Element) : Nat := (es.map fun e => 1 + e.size depth).sum

@[simp] theorem linesSize_nil (depth : Nat) : linesSize depth [] = 0 := rfl

@[simp] theorem linesSize_cons (depth : Nat) (e : Element) (es : List Element) :
    linesSize depth (e :: es) = 1 + e.size depth + linesSize depth es := by
  simp [linesSize]

@[simp] theorem linesSize_append (depth : Nat) (es fs : List Element) :
    linesSize depth (es ++ fs) = linesSize depth es + linesSize depth fs := by
  simp [linesSize]

theorem linesSize_map {α : Type} (depth : Nat) (f : α → Element) (as : List α) :
    linesSize depth (as.map f) = (as.map fun a => 1 + (f a).size depth).sum := by
  simp [linesSize, Function.comp_def]

theorem linesSize_le {depth n : Nat} {es : List Element} (h : ∀ e ∈ es, e.size depth ≤ n) :
    linesSize depth es ≤ (n + 1) * es.length := by
  induction es with
  | nil => exact Nat.le_refl _
  | cons e es ih =>
      have he := h e List.mem_cons_self
      have hes := ih fun x hx => h x (List.mem_cons_of_mem e hx)
      rw [linesSize_cons, List.length_cons, Nat.mul_succ]
      omega

theorem utf8Len_printSiblings (depth : Nat) (es : List Element) :
    utf8Len (printSiblings depth es) = linesSize (depth + 1) es + (1 + 2 * depth) := by
  have hend : '\n'.utf8Size = 1 := rfl
  induction es with
  | nil => rw [printSiblings, utf8Len_cons, utf8Len_indent, linesSize_nil, hend]; omega
  | cons e es ih =>
      rw [printSiblings, utf8Len_append, utf8Len_cons, ih, linesSize_cons, ← size, hend]
      omega

@[simp] theorem childrenSize_nil (depth : Nat) : childrenSize depth [] = 0 := by
  rw [childrenSize, printChildren, utf8Len_nil]

@[simp] theorem childrenSize_cons (depth : Nat) (e : Element) (es : List Element) :
    childrenSize depth (e :: es) = linesSize (depth + 1) (e :: es) + (1 + 2 * depth) := by
  have hend : '\n'.utf8Size = 1 := rfl
  rw [childrenSize, printChildren, utf8Len_append, utf8Len_cons, utf8Len_printSiblings,
    linesSize_cons, ← size, hend]
  omega

theorem childrenSize_le (depth : Nat) (es : List Element) :
    childrenSize depth es ≤ linesSize (depth + 1) es + (1 + 2 * depth) := by
  cases es with
  | nil => rw [childrenSize_nil]; omega
  | cons e es => rw [childrenSize_cons]

theorem linesSize_le_childrenSize (depth : Nat) (es : List Element) :
    linesSize (depth + 1) es ≤ childrenSize depth es := by
  cases es with
  | nil => rw [linesSize_nil]; omega
  | cons e es => rw [childrenSize_cons]; omega

/-! ## Elements by how they are built -/

/-- **The bytes of an element.** -/
theorem size_eq (depth : Nat) (e : Element) :
    e.size depth = 2 * depth + 5 + 2 * e.name.utf8ByteSize + attrsSize e.attrs + writtenSize e.text +
      childrenSize depth e.children := by
  have hmarks : '<'.utf8Size = 1 ∧ '>'.utf8Size = 1 ∧ '/'.utf8Size = 1 := ⟨rfl, rfl, rfl⟩
  cases e
  simp only [size, attrsSize, writtenSize, childrenSize, print, utf8Len_append, utf8Len_cons,
    utf8Len_nil, utf8Len_indent, utf8Len_toList, hmarks]
  omega

@[simp] theorem size_leaf (depth : Nat) (name text : String) :
    (leaf name text).size depth = 2 * depth + 5 + 2 * name.utf8ByteSize + writtenSize text := by
  rw [size_eq, leaf]
  dsimp only
  rw [attrsSize_nil, childrenSize_nil]
  omega

@[simp] theorem size_node (depth : Nat) (name : String) (children : List Element) :
    (node name children).size depth =
      2 * depth + 5 + 2 * name.utf8ByteSize + childrenSize depth children := by
  rw [size_eq, node]
  dsimp only
  rw [attrsSize_nil, writtenSize_empty]
  omega

@[simp] theorem size_withAttr (depth : Nat) (e : Element) (key value : String) :
    (e.withAttr key value).size depth =
      e.size depth + (4 + key.utf8ByteSize + writtenSize value) := by
  rw [size_eq, size_eq, withAttr]
  dsimp only
  rw [attrsSize_append, attrsSize_cons, attrsSize_nil]
  dsimp only
  omega

/-- The bytes of a document. -/
theorem utf8ByteSize_toText (e : Element) : e.toText.utf8ByteSize = e.size 0 := by
  rw [toText_eq, utf8ByteSize_ofList, size]

end Element

end Provisioning.Markup
