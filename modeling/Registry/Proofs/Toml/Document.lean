import Mathlib.Data.List.Forall2
import Registry.Proofs.Toml.Literal
import Registry.TextMap
import Registry.Toml.Reader

/-! # Documents that read back

A document of headers and assignments, each on a line of its own, is read as the tables that they
make up.
-/

namespace Registry.Toml

namespace Reader

/-- A name that needs no quotes as a key. -/
def IsBare (name : List Char) : Prop :=
  name ≠ [] ∧ ∀ c ∈ name, isBareKeyChar c = true

theorem isBare_of_all {name : List Char} (notNil : name ≠ [])
    (all : name.all isBareKeyChar = true) : IsBare name :=
  ⟨notNil, List.all_eq_true.1 all⟩

/-- A character that starts a key is no quote, no bracket and nothing that is skipped. -/
theorem of_isBareKeyChar {c : Char} (bare : isBareKeyChar c = true) :
    (c ≠ '"' ∧ c ≠ '\'' ∧ c ≠ '[') ∧ (c ≠ '#' ∧ c ≠ '\n' ∧ c ≠ '\r') ∧ isSpace c = false := by
  refine ⟨⟨?_, ?_, ?_⟩, ⟨?_, ?_, ?_⟩, ?_⟩
  case refine_7 =>
    rw [isSpace, Bool.or_eq_false_iff, decide_eq_false_iff_not, decide_eq_false_iff_not]
    constructor
    all_goals
      rintro rfl
      exact absurd bare (by decide)
  all_goals
    rintro rfl
    exact absurd bare (by decide)

theorem IsBare.eq_cons {name : List Char} (bare : IsBare name) :
    ∃ c more, name = c :: more ∧ isBareKeyChar c = true := by
  obtain ⟨c, more, rfl⟩ := List.exists_cons_of_ne_nil bare.1
  exact ⟨c, more, rfl, bare.2 c List.mem_cons_self⟩

theorem keyPart_bare {name rest : List Char} (bare : IsBare name)
    (ends : ∀ c ∈ rest.head?, isBareKeyChar c = false) :
    keyPart (name ++ rest) = some (String.ofList name, rest) := by
  obtain ⟨notNil, all⟩ := bare
  have stops : rest.takeWhile isBareKeyChar = [] ∧ rest.dropWhile isBareKeyChar = rest := by
    cases rest with
    | nil => simp
    | cons c rest => simp [ends c rfl]
  have front : (name ++ rest).takeWhile isBareKeyChar = name := by
    rw [List.takeWhile_append_of_pos all, stops.1, List.append_nil]
  have back : (name ++ rest).dropWhile isBareKeyChar = rest := by
    rw [List.dropWhile_append_of_pos all, stops.2]
  cases name with
  | nil => contradiction
  | cons c name =>
      obtain ⟨⟨notQuote, notSingleQuote, -⟩, -⟩ := of_isBareKeyChar (all c List.mem_cons_self)
      unfold keyPart
      split
      · rename_i starts
        exact absurd (List.head_eq_of_cons_eq starts) notQuote
      · rename_i starts
        exact absurd (List.head_eq_of_cons_eq starts) notSingleQuote
      · rw [front, back]
        rfl

theorem skipSpaces_of_head {cs : List Char} (starts : ∀ c ∈ cs.head?, isSpace c = false) :
    skipSpaces cs = cs := by
  cases cs with
  | nil => rfl
  | cons c cs => simp [skipSpaces, starts c rfl]

theorem key_bare {name rest : List Char} (bare : IsBare name)
    (ends : ∀ c ∈ rest.head?, isBareKeyChar c = false)
    (notDot : ∀ more, skipSpaces rest ≠ '.' :: more) :
    key (name ++ rest) = some (⟨String.ofList name, []⟩, skipSpaces rest) := by
  have starts : skipSpaces (name ++ rest) = name ++ rest := by
    refine skipSpaces_of_head fun c first => ?_
    obtain ⟨d, more, rfl, bareChar⟩ := bare.eq_cons
    cases first
    exact (of_isBareKeyChar bareChar).2.2
  rw [key, depthLimit, keyParts, starts, keyPart_bare bare ends]
  simp only [Option.bind_eq_bind, Option.bind_some]
  rfl

theorem statement_header {name : List Char} (bare : IsBare name) (rest : List Char) :
    statement ('[' :: (name ++ ']' :: '\n' :: rest)) =
      some (.header ⟨String.ofList name, []⟩, rest) := by
  have read : key (name ++ ']' :: '\n' :: rest) =
      some (⟨String.ofList name, []⟩, ']' :: '\n' :: rest) :=
    key_bare bare (by simp; decide) (by rintro more ⟨⟩)
  obtain ⟨c, more, rfl, bareChar⟩ := bare.eq_cons
  obtain ⟨⟨-, -, notBracket⟩, -⟩ := of_isBareKeyChar bareChar
  rw [List.cons_append] at *
  rw [statement]
  · rw [read]
    rfl
  · intro more starts
    exact absurd (List.head_eq_of_cons_eq starts) notBracket

theorem value_write (fuel depth : Nat) (text : List Char) {rest : List Char}
    (noQuote : rest.head? ≠ some '"') (noSingleQuote : rest.head? ≠ some '\'') :
    value (fuel + 1) depth (Literal.write text ++ rest) =
      some (.text (String.ofList text), rest) := by
  have read := Literal.read_write text noQuote noSingleQuote
  obtain ⟨cs, starts | starts⟩ := Literal.write_starts text
  · rw [starts, List.cons_append] at read ⊢
    simp [value, read]
  · rw [starts, List.cons_append] at read ⊢
    simp [value, read]

theorem assignment_line {name : List Char} (bare : IsBare name) (text rest : List Char) :
    assignment (name ++ ' ' :: '=' :: ' ' :: (Literal.write text ++ '\n' :: rest)) =
      some (.assignment ⟨String.ofList name, []⟩ (.text (String.ofList text)), rest) := by
  have spaces : skipSpaces (' ' :: (Literal.write text ++ '\n' :: rest)) =
      Literal.write text ++ '\n' :: rest := by
    obtain ⟨cs, starts | starts⟩ := Literal.write_starts text
    · rw [starts]; rfl
    · rw [starts]; rfl
  have read : key (name ++ ' ' :: '=' :: ' ' :: (Literal.write text ++ '\n' :: rest)) =
      some (⟨String.ofList name, []⟩, '=' :: ' ' :: (Literal.write text ++ '\n' :: rest)) :=
    key_bare bare (by simp; decide) (by rintro more ⟨⟩)
  have item (fuel : Nat) : value (fuel + 1) 0 (Literal.write text ++ '\n' :: rest) =
      some (.text (String.ofList text), '\n' :: rest) :=
    value_write fuel 0 text (by simp) (by simp)
  obtain ⟨fuel, length⟩ : ∃ fuel,
      (name ++ ' ' :: '=' :: ' ' :: (Literal.write text ++ '\n' :: rest)).length = fuel + 1 :=
    ⟨_, by rw [List.length_append, List.length_cons, ← Nat.add_assoc]⟩
  simp only [assignment, read, length, Option.bind_eq_bind, Option.bind_some, spaces, item]
  rfl

theorem statement_assignment {name : List Char} (bare : IsBare name) (text rest : List Char) :
    statement (name ++ ' ' :: '=' :: ' ' :: (Literal.write text ++ '\n' :: rest)) =
      some (.assignment ⟨String.ofList name, []⟩ (.text (String.ofList text)), rest) := by
  rw [← assignment_line bare text rest]
  obtain ⟨c, more, rfl, bareChar⟩ := bare.eq_cons
  obtain ⟨⟨-, -, notBracket⟩, -⟩ := of_isBareKeyChar bareChar
  rw [List.cons_append, statement]
  · simp [notBracket]
  · simp [notBracket]

/-- Whatever comes behind them, the characters are read as one statement. -/
def Spells (cs : List Char) (s : Statement) : Prop :=
  ∀ rest, ∃ line, line ≠ [] ∧ skipGap false (cs ++ rest) = some line ∧
    statement line = some (s, rest)

theorem spells_header {name : List Char} (bare : IsBare name) :
    Spells ('[' :: (name ++ [']', '\n'])) (.header ⟨String.ofList name, []⟩) := by
  intro rest
  refine ⟨'[' :: (name ++ ']' :: '\n' :: rest), List.cons_ne_nil _ _, ?_,
    statement_header bare rest⟩
  rw [List.cons_append, List.append_assoc]
  rfl

theorem spells_assignment {name : List Char} (bare : IsBare name) (text : List Char) :
    Spells (name ++ [' ', '=', ' '] ++ Literal.write text ++ ['\n'])
      (.assignment ⟨String.ofList name, []⟩ (.text (String.ofList text))) := by
  intro rest
  refine ⟨_, ?_, ?_, statement_assignment bare text rest⟩
  · simp
  · obtain ⟨c, more, rfl, bareChar⟩ := bare.eq_cons
    obtain ⟨-, ⟨notComment, notLine, notReturn⟩, notSpace⟩ := of_isBareKeyChar bareChar
    simp only [List.cons_append, List.append_assoc, List.nil_append]
    rw [skipGap]
    · simp [notComment, notSpace]
    · exact notLine
    · simp [notReturn]

/-- An empty line in front makes no difference. -/
theorem Spells.gap {cs : List Char} {s : Statement} (spells : Spells cs s) :
    Spells ('\n' :: cs) s :=
  spells

theorem statements_flatten {lines : List (List Char)} {said : List Statement}
    (spell : List.Forall₂ Spells lines said) :
    ∀ {fuel : Nat}, lines.length ≤ fuel → statements fuel lines.flatten = some said := by
  induction spell with
  | nil =>
      intro fuel _
      cases fuel with
      | zero => rfl
      | succ fuel => rfl
  | cons spells others ih =>
      rename_i cs s lines said
      intro fuel enough
      obtain ⟨fuel, rfl⟩ : ∃ less, fuel = less + 1 := ⟨fuel - 1, by simp at enough; omega⟩
      obtain ⟨line, notNil, gap, read⟩ := spells lines.flatten
      have later : statements fuel lines.flatten = some said := ih (by simpa using enough)
      rw [List.flatten_cons, statements, gap]
      cases line with
      | nil => contradiction
      | cons c line => simp [read, later]

theorem Spells.ne_nil {cs : List Char} {s : Statement} (spells : Spells cs s) : cs ≠ [] := by
  rintro rfl
  obtain ⟨line, notNil, gap, -⟩ := spells []
  exact notNil (Option.some.inj gap).symm

/-- Each statement takes a character at least, so the length of a text is fuel enough for it. -/
theorem length_le_flatten {lines : List (List Char)} {said : List Statement}
    (spell : List.Forall₂ Spells lines said) : lines.length ≤ lines.flatten.length := by
  induction spell with
  | nil => exact Nat.le_refl 0
  | cons spells others ih =>
      have longer := List.length_pos_of_ne_nil spells.ne_nil
      rw [List.length_cons, List.flatten_cons, List.length_append]
      omega

end Reader

/-! ## Tables -/

/-- A table with a name of its own, and texts as its values. -/
structure Table where
  name : String
  entries : List (String × String)

namespace Table

/-- Keys without quotes, none of them twice. -/
structure WellFormed (t : Table) : Prop where
  name : Reader.IsBare t.name.toList
  keys : ∀ e ∈ t.entries, Reader.IsBare e.1.toList
  once : (t.entries.map (·.1)).Nodup

def items (t : Table) : Entries :=
  t.entries.map fun e => (e.1, .text e.2)

def statements (t : Table) : List Statement :=
  .header ⟨t.name, []⟩ :: t.entries.map fun e => .assignment ⟨e.1, []⟩ (.text e.2)

def header (t : Table) : List Char :=
  '[' :: (t.name.toList ++ [']', '\n'])

def lines (t : Table) : List (List Char) :=
  t.entries.map fun e => e.1.toList ++ [' ', '=', ' '] ++ Literal.write e.2.toList ++ ['\n']

/-- A header, and a line for each entry. -/
def text (t : Table) : List Char :=
  t.header ++ t.lines.flatten

variable {t : Table} {root : Entries}

theorem lookup_eq_none {key : String} (new : ∀ name ∈ root.map (·.1), name ≠ key) :
    root.lookup key = none := by
  refine List.lookup_eq_none_iff.2 fun e member => ?_
  simpa using (new e.1 (List.mem_map_of_mem member)).symm

theorem lookup_concat {key : String} (other : String) (item : Item)
    (new : root.lookup key = none) :
    (root ++ [(key, item)]).lookup other =
      if other = key then some item else root.lookup other := by
  rw [List.lookup_append, TextMap.lookup_cons]
  by_cases same : other = key
  · simp [same, new]
  · simp [same]

theorem replace_concat {key : String} (item next : Item) (new : root.lookup key = none) :
    Entries.replace (root ++ [(key, item)]) key next = root ++ [(key, next)] := by
  have others : ∀ e ∈ root, e.1 ≠ key := by
    intro e member same
    have := List.lookup_eq_none_iff.1 new e member
    simp [same] at this
  have kept : Entries.replace root key next = root := by
    refine (List.map_congr_left fun e member => ?_).trans (List.map_id root)
    exact if_neg (others e member)
  simp only [Entries.replace] at kept
  simp [Entries.replace, kept]

theorem add_header (name : String) (current : List String) (new : root.lookup name = none) :
    Assembly.add ⟨root, current⟩ (.header ⟨name, []⟩) =
      some ⟨root ++ [(name, .table .header [])], [name]⟩ := by
  simp [Assembly.add, Key.outer, Key.parts, Key.last, Entries.within, Entries.openTable, new]

theorem add_assignment {name key : String} {entries : Entries} (item : Item)
    (new : root.lookup name = none) (newKey : entries.lookup key = none) :
    Assembly.add ⟨root ++ [(name, .table .header entries)], [name]⟩ (.assignment ⟨key, []⟩ item) =
      some ⟨root ++ [(name, .table .header (entries ++ [(key, item)]))], [name]⟩ := by
  simp [Assembly.add, Entries.within, Entries.assign, lookup_concat, replace_concat, new, newKey]

theorem foldlM_assignments {name : String} (new : root.lookup name = none)
    (entries : List (String × String)) :
    ∀ {done : Entries}, (done.map (·.1) ++ entries.map (·.1)).Nodup →
      (entries.map fun e => Statement.assignment ⟨e.1, []⟩ (.text e.2)).foldlM Assembly.add
          ⟨root ++ [(name, .table .header done)], [name]⟩ =
        some ⟨root ++ [(name, .table .header (done ++ entries.map fun e => (e.1, .text e.2)))],
          [name]⟩ := by
  induction entries with
  | nil => simp
  | cons e rest ih =>
      intro done once
      have newKey : done.lookup e.1 = none :=
        lookup_eq_none fun name member =>
          (List.nodup_append.1 once).2.2 name member e.1 List.mem_cons_self
      have once' : ((done ++ [(e.1, Item.text e.2)]).map (·.1) ++ rest.map (·.1)).Nodup := by
        simpa using once
      rw [List.map_cons, List.foldlM_cons, add_assignment _ new newKey]
      simpa using ih once'

theorem foldlM_statements (wf : t.WellFormed) (new : root.lookup t.name = none)
    (current : List String) :
    t.statements.foldlM Assembly.add ⟨root, current⟩ =
      some ⟨root ++ [(t.name, .table .header t.items)], [t.name]⟩ := by
  rw [statements, List.foldlM_cons, add_header _ _ new]
  exact foldlM_assignments new t.entries wf.once

theorem spells_lines (wf : t.WellFormed) :
    List.Forall₂ Reader.Spells (t.header :: t.lines) t.statements := by
  refine .cons ?_ (List.forall₂_map_left_iff.2 (List.forall₂_map_right_iff.2 ?_))
  · rw [header, ← String.ofList_toList (s := t.name)]
    simpa using Reader.spells_header wf.name
  · refine List.forall₂_same.2 fun e member => ?_
    simpa using Reader.spells_assignment (wf.keys e member) e.2.toList

/-- The lines of a table that stands behind another one, an empty line between them. -/
def linesBehind (t : Table) : List (List Char) :=
  ('\n' :: t.header) :: t.lines

theorem spells_linesBehind (wf : t.WellFormed) :
    List.Forall₂ Reader.Spells t.linesBehind t.statements := by
  obtain ⟨header, lines⟩ := List.forall₂_cons.1 (spells_lines wf)
  exact .cons header.gap lines

end Table

theorem spells_tables {tables : List Table} (wf : ∀ t ∈ tables, t.WellFormed) :
    List.Forall₂ Reader.Spells (tables.flatMap Table.linesBehind)
      (tables.flatMap Table.statements) := by
  induction tables with
  | nil => exact .nil
  | cons t tables ih =>
      obtain ⟨first, others⟩ := List.forall_mem_cons.1 wf
      exact List.rel_append (Table.spells_linesBehind first) (ih others)

/-- The lines of a document, an empty one between tables. -/
def documentLines : List Table → List (List Char)
  | [] => []
  | t :: tables => (t.header :: t.lines) ++ tables.flatMap Table.linesBehind

theorem spells_documentLines {tables : List Table} (wf : ∀ t ∈ tables, t.WellFormed) :
    List.Forall₂ Reader.Spells (documentLines tables) (tables.flatMap Table.statements) := by
  cases tables with
  | nil => exact .nil
  | cons t tables =>
      obtain ⟨first, others⟩ := List.forall_mem_cons.1 wf
      exact List.rel_append (Table.spells_lines first) (spells_tables others)

theorem flatten_documentLines (tables : List Table) :
    (documentLines tables).flatten = ['\n'].intercalate (tables.map Table.text) := by
  cases tables with
  | nil => rfl
  | cons t tables =>
      have others (t : Table) : ['\n'].intercalate ((t :: tables).map Table.text) =
          t.text ++ (tables.flatMap Table.linesBehind).flatten := by
        induction tables generalizing t with
        | nil => simp
        | cons next tables ih =>
            rw [List.map_cons, List.map_cons, List.intercalate_cons_cons, ← List.map_cons, ih]
            simp [Table.linesBehind, Table.text]
      rw [others t]
      simp [documentLines, Table.text]

theorem withoutMark_documentLines (tables : List Table) :
    Reader.withoutMark (documentLines tables).flatten = (documentLines tables).flatten := by
  cases tables with
  | nil => rfl
  | cons t tables => rfl

theorem foldlM_tables {tables : List Table} (wf : ∀ t ∈ tables, t.WellFormed) :
    ∀ (root : Entries) (current : List String), (root.map (·.1) ++ tables.map (·.name)).Nodup →
      ∃ last, (tables.flatMap Table.statements).foldlM Assembly.add ⟨root, current⟩ =
        some ⟨root ++ tables.map fun t => (t.name, .table .header t.items), last⟩ := by
  induction tables with
  | nil => exact fun _ current _ => ⟨current, by simp⟩
  | cons t tables ih =>
      intro root current once
      obtain ⟨first, others⟩ := List.forall_mem_cons.1 wf
      have new : root.lookup t.name = none :=
        Table.lookup_eq_none fun name member =>
          (List.nodup_append.1 once).2.2 name member t.name List.mem_cons_self
      obtain ⟨last, read⟩ := ih others (root ++ [(t.name, .table .header t.items)]) [t.name]
        (by simpa using once)
      refine ⟨last, ?_⟩
      rw [List.flatMap_cons, List.foldlM_append, Table.foldlM_statements first new]
      simpa using read

/-- A document of tables, each with a name of its own, is read as these tables. -/
theorem parse?_tables (tables : List Table) (wf : ∀ t ∈ tables, t.WellFormed)
    (once : (tables.map (·.name)).Nodup) :
    parse? (String.ofList (['\n'].intercalate (tables.map Table.text))) =
      some (tables.map fun t => (t.name, .table .header t.items)) := by
  have spell := spells_documentLines wf
  have said := Reader.statements_flatten spell (Reader.length_le_flatten spell)
  obtain ⟨last, assembled⟩ := foldlM_tables wf [] [] (by simpa using once)
  have read : document (tables.flatMap Table.statements) =
      some (tables.map fun t => (t.name, .table .header t.items)) := by
    rw [document, assembled]
    rfl
  rw [← flatten_documentLines, parse?, String.toList_ofList, withoutMark_documentLines]
  exact (congrArg (Option.bind · document) said).trans read

end Registry.Toml
