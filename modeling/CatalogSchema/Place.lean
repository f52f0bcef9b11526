/-!
# Places

A place says where an entry of a file tree is: the names that lead to it from the root, each after a
slash. It is one text, so that two places are compared in one go.
-/

namespace CatalogSchema

structure Place where
  text : String
  deriving DecidableEq, Repr

namespace Place

def root : Place := ⟨""⟩

/-- The place of a name in a folder. -/
def child (p : Place) (name : String) : Place := ⟨p.text ++ "/" ++ name⟩

theorem child_ne_root (p : Place) (name : String) : p.child name ≠ root := by
  intro h
  have hl : (p.child name).text.length = 0 := by rw [h]; rfl
  simp only [child, String.length_append] at hl
  have : "/".length = 1 := rfl
  omega

def ofNames (names : List String) : Place := names.foldl child root

/-- The place without its last name; the root stays. -/
def above (p : Place) : Place :=
  ⟨String.ofList ((p.text.toList.reverse.dropWhile (· ≠ '/')).drop 1).reverse⟩

/-- How a place below a folder is written from there. -/
def below? (folder p : Place) : Option String :=
  ((folder.text ++ "/").toList.isPrefixOf? p.text.toList).map String.ofList

end Place

end CatalogSchema
