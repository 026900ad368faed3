import AerialBridge.Collections.Dict

/-!
# YAML values

What `yaml.safe_load` returns for a document without aliases: a tree, whose mappings have keys in `K`.
-/

namespace AerialBridge

/-- The entries of a mapping stand in the order of the document; of scalars that are neither text
nor numbers only their truth matters. -/
inductive Yaml (K : Type)
  | null
  | bool (b : Bool)
  | int (n : Int)
  | str (text : List Char)
  | other (truthy : Bool)
  | seq (items : List (Yaml K))
  | map (entries : List (K × Yaml K))

namespace Yaml

variable {K : Type}

/-- A text stands somewhere among the values. -/
inductive Holds (text : List Char) : Yaml K → Prop
  | str : Holds text (.str text)
  | seq {items : List (Yaml K)} {item : Yaml K} (hitem : item ∈ items) (h : Holds text item) :
      Holds text (.seq items)
  | map {entries : List (K × Yaml K)} {entry : K × Yaml K} (hentry : entry ∈ entries)
      (h : Holds text entry.2) : Holds text (.map entries)

/-- `bool(value)`. -/
def truthy : Yaml K → Bool
  | null => false
  | bool b => b
  | int n => n != 0
  | str text => !text.isEmpty
  | other truthy => truthy
  | seq items => !items.isEmpty
  | map entries => !entries.isEmpty

end Yaml

end AerialBridge
