import AccessPolicy.Proofs.Toml.Syntax
import Mathlib.Data.List.Nodup

/-!
# Flat documents of TOML

A flat document has pairs of bare keys and values, and behind them tables that
are defined by headers of bare keys and hold such pairs.  No key of it is there
twice.  It is read as what its lines say, in their order.
-/

namespace AccessPolicy.Toml

structure Pair where
  name : String
  value : Document
  spelling : String
  bare : BareKey name
  spells : SpellsValue spelling value

namespace Pair

variable (pair : Pair)

def line : String := pairLine pair.name pair.spelling

def told : Line := .pair ⟨[], pair.name⟩ pair.value

def entry : Key × Document := (⟨[], pair.name⟩, pair.value)

def node : Node := .value pair.value

def field : String × Document := (pair.name, pair.value)

theorem spellsLine : SpellsLine pair.line pair.told :=
  spellsLine_pair pair.bare pair.spells

end Pair

structure Block where
  name : String
  pairs : List Pair
  bare : BareKey name
  nodup : (pairs.map Pair.name).Nodup

namespace Block

variable (block : Block)

def lines : List String := headerLine block.name :: block.pairs.map Pair.line

def told : List Line :=
  .header ⟨[], block.name⟩ false :: block.pairs.map Pair.told

def part : Section := ⟨⟨[], block.name⟩, false, block.pairs.map Pair.entry⟩

def node : Node :=
  .table .defined (block.pairs.map fun pair => (pair.name, pair.node))

def field : String × Document :=
  (block.name, .table (block.pairs.map Pair.field))

end Block

/-- Pairs and tables behind them, all with different keys. -/
structure Flat where
  pairs : List Pair
  blocks : List Block
  nodup : (pairs.map Pair.name ++ blocks.map Block.name).Nodup

namespace Flat

variable (flat : Flat)

def lines : List String :=
  flat.pairs.map Pair.line ++ flat.blocks.flatMap Block.lines

def told : List Line :=
  flat.pairs.map Pair.told ++ flat.blocks.flatMap Block.told

def fields : List (String × Document) :=
  flat.pairs.map Pair.field ++ flat.blocks.map Block.field

end Flat

section

variable {entries : Entries} {name : String} {node : Node}

/-- What is put under a new name comes last. -/
theorem Entries.alter_new {change : Option Node → Option Node}
    (hname : name ∉ entries.map (·.1)) (hchange : change none = some node) :
    entries.alter name change = some (entries ++ [(name, node)]) := by
  induction entries with
  | nil => rw [Entries.alter, hchange]; rfl
  | cons entry rest ih =>
      rw [List.map_cons, List.mem_cons, not_or] at hname
      rw [Entries.alter, if_neg (Ne.symm hname.1), ih hname.2]
      rfl

/-- If each item is put under its own name where this name is new, items of
different names come one behind the other. -/
theorem foldlM_new {α : Type} {put : Entries → α → Option Entries}
    (name : α → String) (node : α → Node)
    (hput : ∀ entries item, name item ∉ entries.map (·.1) →
      put entries item = some (entries ++ [(name item, node item)]))
    {items : List α} (hnodup : (entries.map (·.1) ++ items.map name).Nodup) :
    items.foldlM put entries =
      some (entries ++ items.map fun item => (name item, node item)) := by
  induction items generalizing entries with
  | nil => rw [List.map_nil, List.append_nil]; rfl
  | cons item rest ih =>
      have hname : name item ∉ entries.map (·.1) := by
        intro hmem
        rw [List.map_cons] at hnodup
        exact (List.nodup_append.1 hnodup).2.2 _ hmem _ List.mem_cons_self rfl
      have hrest :
          ((entries ++ [(name item, node item)]).map (·.1) ++
            rest.map name).Nodup := by
        rwa [List.map_append, List.append_assoc]
      rw [List.foldlM_cons, hput entries item hname]
      show rest.foldlM put _ = _
      rw [ih hrest, List.append_assoc]
      rfl

theorem insertAll_pairs {pairs : List Pair}
    (hnodup : (pairs.map Pair.name).Nodup) :
    Entries.insertAll (pairs.map Pair.entry) [] =
      some (pairs.map fun pair => (pair.name, pair.node)) := by
  rw [Entries.insertAll, List.foldlM_map]
  exact foldlM_new Pair.name Pair.node
    (fun _ _ hname => Entries.alter_new hname rfl) hnodup

theorem documents_map {α : Type} (name : α → String) (node : α → Node)
    (items : List α) :
    documents (items.map fun item => (name item, node item)) =
      items.map fun item => (name item, (node item).document) := by
  induction items with
  | nil => rfl
  | cons item rest ih => rw [List.map_cons, documents, ih]; rfl

theorem documents_append (first second : Entries) :
    documents (first ++ second) = documents first ++ documents second := by
  induction first with
  | nil => rfl
  | cons entry rest ih => rw [List.cons_append, documents, ih]; rfl

end

namespace Block

variable (block : Block)

theorem document_node :
    block.node.document = .table (block.pairs.map Pair.field) := by
  rw [node, Node.document, documents_map]
  rfl

theorem apply_part {entries : Entries}
    (hname : block.name ∉ entries.map (·.1)) :
    block.part.apply entries =
      some (entries ++ [(block.name, block.node)]) := by
  refine Entries.alter_new hname ?_
  show (Entries.insertAll (block.pairs.map Pair.entry) []).map _ = _
  rw [insertAll_pairs block.nodup]
  rfl

theorem spellsLines : List.Forall₂ SpellsLine block.lines block.told := by
  refine .cons (spellsLine_header block.bare) ?_
  rw [List.forall₂_map_left_iff, List.forall₂_map_right_iff, List.forall₂_same]
  exact fun pair _ => pair.spellsLine

end Block

theorem sections_pairs (pairs : List Pair) (rest : List Line) :
    sections (pairs.map Pair.told ++ rest) =
      (pairs.map Pair.entry ++ (sections rest).1, (sections rest).2) := by
  induction pairs with
  | nil => rfl
  | cons pair later ih =>
      rw [List.map_cons, List.cons_append, Pair.told, sections, ih]; rfl

theorem sections_blocks (blocks : List Block) :
    sections (blocks.flatMap Block.told) = ([], blocks.map Block.part) := by
  induction blocks with
  | nil => rfl
  | cons block later ih =>
      rw [List.flatMap_cons, Block.told, List.cons_append, sections,
        sections_pairs, ih, List.append_nil]
      rfl

namespace Flat

variable (flat : Flat)

theorem spellsLines : List.Forall₂ SpellsLine flat.lines flat.told := by
  refine List.rel_append ?pairs ?blocks
  case pairs =>
    rw [List.forall₂_map_left_iff, List.forall₂_map_right_iff,
      List.forall₂_same]
    exact fun pair _ => pair.spellsLine
  case blocks =>
    have hsame : List.Forall₂ Eq flat.blocks flat.blocks := List.forall₂_refl _
    refine List.rel_flatMap hsame ?_
    rintro block _ rfl
    exact block.spellsLines

theorem rootTable?_eq :
    rootTable? (flat.pairs.map Pair.entry) (flat.blocks.map Block.part) =
      some (.table flat.fields) := by
  have hpairs := insertAll_pairs (List.Nodup.of_append_left flat.nodup)
  have hnames :
      ((flat.pairs.map fun pair => (pair.name, pair.node)).map (·.1) ++
        flat.blocks.map Block.name).Nodup := by
    rw [List.map_map]
    exact flat.nodup
  have hblocks := foldlM_new Block.name Block.node
    (fun _ block hname => block.apply_part hname) hnames
  simp only [rootTable?, hpairs, List.foldlM_map, hblocks, Option.bind_eq_bind,
    Option.bind_some]
  simp only [documents_append, documents_map, Block.document_node]
  rfl

/-- A flat document is read as its fields, in their order. -/
theorem parse?_eq {text : String} (hlaid : Laid flat.lines text.toList) :
    parse? text = some (.table flat.fields) := by
  rw [parse?, skipMark_laid hlaid flat.spellsLines,
    lines?_laid hlaid flat.spellsLines]
  show rootTable? (sections flat.told).1 (sections flat.told).2 = _
  rw [told, sections_pairs, sections_blocks, List.append_nil]
  exact flat.rootTable?_eq

end Flat

end AccessPolicy.Toml
