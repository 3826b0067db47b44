import Mathlib.Data.List.Nodup
import PneumaLab.Library.Keyed

namespace PneumaLab

section Key
variable {Row κ : Type} [DecidableEq κ]

structure Table (key : Row → κ) where
  rows : List Row
  distinct : (rows.map key).Nodup

namespace Table
variable {key : Row → κ}

def empty : Table key := ⟨[],List.nodup_nil⟩

def find (table : Table key) (k : κ) : Option Row := table.rows.find? fun row => key row = k

theorem find_eq_some {table : Table key} {k : κ} {row : Row} :
    table.find k = some row ↔ row ∈ table.rows ∧ key row = k := find_key_eq_some table.distinct

theorem find_self {table : Table key} {row : Row} (h : row ∈ table.rows) : table.find (key row) = some row :=
  find_eq_some.mpr ⟨h,rfl⟩

theorem find_isSome {table : Table key} {k : κ} : (table.find k).isSome = true ↔ ∃ row ∈ table.rows, key row = k := by
  rw [Option.isSome_iff_exists]
  simp only [find_eq_some]

theorem find_eq_none {table : Table key} {k : κ} : table.find k = none ↔ ∀ row ∈ table.rows, key row ≠ k := by
  rw [find,List.find?_eq_none]
  simp only [decide_eq_true_eq,ne_eq]

theorem unique {table : Table key} {row other : Row} (hrow : row ∈ table.rows) (hother : other ∈ table.rows)
    (h : key row = key other) : row = other :=
  Option.some.inj ((find_self hrow).symm.trans (h ▸ find_self hother))

omit [DecidableEq κ] in
theorem distinct_append {rows : List Row} {row : Row} (hrows : (rows.map key).Nodup) (h : key row ∉ rows.map key) :
    ((rows ++ [row]).map key).Nodup := by
  rw [List.map_append,List.nodup_append_comm]
  exact List.nodup_cons.mpr ⟨h,hrows⟩

def insert (table : Table key) (row : Row) : Option (Table key) :=
  if h : key row ∈ table.rows.map key then none else some ⟨table.rows ++ [row],distinct_append table.distinct h⟩

theorem insert_rows {table next : Table key} {row : Row} (h : table.insert row = some next) :
    next.rows = table.rows ++ [row] ∧ ∀ other ∈ table.rows, key other ≠ key row := by
  by_cases hkey : key row ∈ table.rows.map key
  · rw [insert,dif_pos hkey] at h
    cases h
  · rw [insert,dif_neg hkey] at h
    cases h
    exact ⟨rfl,fun other hother he => hkey (he ▸ List.mem_map_of_mem hother)⟩

theorem mem_insert {table next : Table key} {row other : Row} (h : table.insert row = some next) :
    other ∈ next.rows ↔ other ∈ table.rows ∨ other = row := by
  rw [(insert_rows h).1,List.mem_append,List.mem_singleton]

omit [DecidableEq κ] in
theorem distinct_filter {rows : List Row} (hrows : (rows.map key).Nodup) (p : Row → Bool) :
    ((rows.filter p).map key).Nodup := hrows.sublist (List.filter_sublist.map key)

def delete (table : Table key) (p : Row → Bool) : Table key :=
  ⟨table.rows.filter fun row => !p row,distinct_filter table.distinct _⟩

omit [DecidableEq κ] in
theorem mem_delete {table : Table key} {p : Row → Bool} {row : Row} :
    row ∈ (table.delete p).rows ↔ row ∈ table.rows ∧ p row = false := by
  rw [delete,List.mem_filter,Bool.not_eq_true']

omit [DecidableEq κ] in
theorem distinct_map {rows : List Row} {f : Row → Row} (hrows : (rows.map key).Nodup)
    (hf : ∀ row, key (f row) = key row) : ((rows.map f).map key).Nodup := by
  rw [List.map_map,show key ∘ f = key from funext hf]
  exact hrows

def update (table : Table key) (f : Row → Row) (hf : ∀ row, key (f row) = key row) : Table key :=
  ⟨table.rows.map f,distinct_map table.distinct hf⟩

omit [DecidableEq κ] in
theorem mem_update {table : Table key} {f : Row → Row} (hf : ∀ row, key (f row) = key row) {row : Row} :
    row ∈ (table.update f hf).rows ↔ ∃ old ∈ table.rows, f old = row := List.mem_map

theorem not_mem_others {rows : List Row} {row : Row} :
    key row ∉ (rows.filter fun other => key other ≠ key row).map key := by
  intro h
  obtain ⟨other,hother,he⟩ := List.mem_map.mp h
  exact of_decide_eq_true (List.mem_filter.mp hother).2 he

def put (table : Table key) (row : Row) : Table key :=
  ⟨table.rows.filter (fun other => key other ≠ key row) ++ [row],
    distinct_append (distinct_filter table.distinct _) not_mem_others⟩

theorem mem_put {table : Table key} {row other : Row} :
    other ∈ (table.put row).rows ↔ (other ∈ table.rows ∧ key other ≠ key row) ∨ other = row := by
  rw [put,List.mem_append,List.mem_filter,List.mem_singleton,decide_eq_true_eq]

theorem find_put (table : Table key) (row : Row) (k : κ) :
    (table.put row).find k = if key row = k then some row else table.find k := by
  split
  · next heq => exact find_eq_some.mpr ⟨mem_put.mpr (.inr rfl),heq⟩
  · next hne =>
    refine Option.ext fun other => ?_
    rw [find_eq_some,find_eq_some,mem_put]
    constructor
    · rintro ⟨⟨hother,_⟩ | rfl,hkey⟩
      · exact ⟨hother,hkey⟩
      · exact absurd hkey hne
    · rintro ⟨hother,rfl⟩
      exact ⟨.inl ⟨hother,Ne.symm hne⟩,rfl⟩

theorem find_delete_key (table : Table key) (k l : κ) :
    (table.delete fun row => key row = k).find l = if k = l then none else table.find l := by
  split
  · next heq =>
    subst heq
    exact find_eq_none.mpr fun row hrow => of_decide_eq_false (mem_delete.mp hrow).2
  · next hne =>
    refine Option.ext fun other => ?_
    rw [find_eq_some,find_eq_some,mem_delete]
    constructor
    · rintro ⟨⟨hother,_⟩,hkey⟩
      exact ⟨hother,hkey⟩
    · rintro ⟨hother,rfl⟩
      exact ⟨⟨hother,by simpa using Ne.symm hne⟩,rfl⟩

theorem rows_foldl_put {rows : List Row} (h : (rows.map key).Nodup) :
    (rows.foldl put (empty : Table key)).rows = rows := by
  have hfold : ∀ table : Table key, (∀ row ∈ rows, ∀ other ∈ table.rows, key other ≠ key row) →
      (rows.foldl put table).rows = table.rows ++ rows := by
    induction rows with
    | nil => exact fun table _ => (List.append_nil _).symm
    | cons row rows ih =>
      intro table hfresh
      obtain ⟨hrow,hrows⟩ := List.nodup_cons.mp h
      have hput : (table.put row).rows = table.rows ++ [row] := congrArg (· ++ [row])
        (List.filter_eq_self.mpr fun other hother => decide_eq_true (hfresh row List.mem_cons_self other hother))
      rw [List.foldl_cons,ih hrows,hput,List.append_assoc,List.singleton_append]
      intro later hlater other hother
      rw [hput,List.mem_append,List.mem_singleton] at hother
      obtain hother | rfl := hother
      · exact hfresh later (List.mem_cons_of_mem _ hlater) other hother
      · exact fun heq => hrow (heq ▸ List.mem_map_of_mem hlater)
  have hempty := hfold empty fun _ _ _ hother => absurd hother List.not_mem_nil
  rwa [empty,List.nil_append] at hempty

def deleteKeys (table : Table key) (keys : List κ) : Table key :=
  keys.foldl (fun table k => table.delete fun row => key row = k) table

theorem deleteKeys_rows (table : Table key) (keys : List κ) :
    (table.deleteKeys keys).rows = table.rows.filter fun row => key row ∉ keys := by
  induction keys generalizing table with
  | nil => exact (List.filter_eq_self.mpr fun row _ => decide_eq_true List.not_mem_nil).symm
  | cons k keys ih =>
    rw [show table.deleteKeys (k :: keys) = (table.delete fun row => key row = k).deleteKeys keys from rfl,ih,delete,
      List.filter_filter]
    refine List.filter_congr fun row _ => ?_
    simp only [List.mem_cons,not_or,Bool.decide_and,decide_not,Bool.and_comm]

theorem key_mem_filter {table : Table key} {p : Row → Bool} {row : Row} (h : row ∈ table.rows) :
    key row ∈ (table.rows.filter p).map key ↔ p row = true := by
  constructor
  · intro hkey
    obtain ⟨other,hother,he⟩ := List.mem_map.mp hkey
    obtain ⟨hmem,hp⟩ := List.mem_filter.mp hother
    exact unique hmem h he ▸ hp
  · exact fun hp => List.mem_map_of_mem (List.mem_filter.mpr ⟨h,hp⟩)

theorem deleteKeys_filter (table : Table key) (p : Row → Bool) :
    (table.deleteKeys ((table.rows.filter p).map key)).rows = table.rows.filter fun row => !p row := by
  rw [deleteKeys_rows]
  refine List.filter_congr fun row hrow => ?_
  rw [decide_not,@decide_eq_decide _ _ _ (instDecidableEqBool _ _) |>.mpr (key_mem_filter hrow),Bool.decide_eq_true]

omit [DecidableEq κ] in
theorem key_ite {f : Row → Row} (hf : ∀ row, key (f row) = key row) (p : Row → Prop) [DecidablePred p] (row : Row) :
    key (if p row then f row else row) = key row := by
  split
  · exact hf row
  · rfl

def updateKeys (table : Table key) (f : Row → Row) (hf : ∀ row, key (f row) = key row) (keys : List κ) : Table key :=
  keys.foldl (fun table k => table.update (fun row => if key row = k then f row else row) (key_ite hf _)) table

theorem updateKeys_rows (table : Table key) (f : Row → Row) (hf : ∀ row, key (f row) = key row)
    (hff : ∀ row, f (f row) = f row) (keys : List κ) :
    (table.updateKeys f hf keys).rows = table.rows.map fun row => if key row ∈ keys then f row else row := by
  induction keys generalizing table with
  | nil => simp only [updateKeys,List.foldl_nil,List.not_mem_nil,if_false,List.map_id']
  | cons k keys ih =>
    rw [show table.updateKeys f hf (k :: keys) =
      (table.update (fun row => if key row = k then f row else row) (key_ite hf _)).updateKeys f hf keys from rfl,ih,
      update,List.map_map]
    refine List.map_congr_left fun row _ => ?_
    simp only [Function.comp_apply,List.mem_cons]
    by_cases hk : key row = k
    · simp only [hk,if_true,hf,true_or,hff,ite_self]
    · simp only [hk,if_false,false_or]

theorem updateKeys_filter (table : Table key) (f : Row → Row) (hf : ∀ row, key (f row) = key row)
    (hff : ∀ row, f (f row) = f row) (p : Row → Bool) :
    (table.updateKeys f hf ((table.rows.filter p).map key)).rows = table.rows.map fun row => if p row then f row else row := by
  rw [updateKeys_rows table f hf hff]
  refine List.map_congr_left fun row hrow => ?_
  simp only [key_mem_filter hrow]

end Table

end Key

end PneumaLab
