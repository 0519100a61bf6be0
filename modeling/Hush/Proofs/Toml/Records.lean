import Hush.Toml.Mismatch

/-!
# Records in tables

What a record makes of its table: a field is what stands at its key, or else its default, and the
keys that are no fields matter only for what cannot be read behind them.
-/
namespace Hush

namespace Entries

variable {α : Type}

theorem get?_append (t u : Entries α) (name : String) :
    get? (t ++ u) name = (t.get? name).or (u.get? name) := by
  induction t with
  | nil => rfl
  | cons e t ih =>
    rw [List.cons_append, get?_cons, get?_cons, ih]
    split <;> rfl

theorem mem_of_get? {t : Entries α} {name : String} {a : α} (h : t.get? name = some a) :
    (name, a) ∈ t := by
  induction t with
  | nil => cases h
  | cons e t ih =>
    rw [get?_cons] at h
    split at h
    case isTrue hname =>
      cases h
      rw [← hname]
      exact List.mem_cons_self
    case isFalse => exact List.mem_cons_of_mem _ (ih h)

/-- What stands between entries is found if nothing in front of it has its name. -/
theorem get?_append_cons (front back : Entries α) (key name : String) (a : α) :
    get? (front ++ (key, a) :: back) name =
      (front.get? name).or (if key = name then some a else back.get? name) := by
  rw [get?_append, get?_cons]

theorem get?_cons_swap {key other : String} (h : key ≠ other) (a b : α) (t : Entries α)
    (name : String) :
    get? ((key, a) :: (other, b) :: t) name = get? ((other, b) :: (key, a) :: t) name := by
  simp only [get?_cons]
  by_cases hkey : key = name
  · have hother : other ≠ name := fun hother => h (hkey.trans hother.symm)
    rw [if_pos hkey, if_neg hother, if_pos hkey]
  · simp only [if_neg hkey]

end Entries

namespace Toml

namespace Misfit

theorem earlier_behind (m n : Misfit) (j k : String) :
    (m.behind (.key j)).earlier (n.behind (.key k)) =
      if k < j then n.behind (.key k) else m.behind (.key j) := rfl

theorem earlier_behind_comm (m n : Misfit) {j k : String} (h : j ≠ k) :
    (m.behind (.key j)).earlier (n.behind (.key k)) =
      (n.behind (.key k)).earlier (m.behind (.key j)) := by
  grind [earlier_behind]

theorem earlier_behind_left_comm (m n o : Misfit) (i : String) {j k : String} (h : j ≠ k) :
    (m.behind (.key j)).earlier ((n.behind (.key k)).earlier (o.behind (.key i))) =
      (n.behind (.key k)).earlier ((m.behind (.key j)).earlier (o.behind (.key i))) := by
  grind [earlier_behind]

end Misfit

variable {α : Type} {t : Entries Value} {key : String} {v : Value} {a : α}
  {read : Value → Except Misfit α} {default : α}

theorem field_of_get? (h : t.get? key = some v) :
    field t key read default = (read v).mapError (·.behind (.key key)) := by
  rw [field, h]

theorem field_of_absent (h : t.get? key = none) : field t key read default = .ok default := by
  rw [field, h]

theorem field_eq_ok (h : t.get? key = some v) (hread : read v = .ok a) :
    field t key read default = .ok a := by
  rw [field_of_get? h, hread]
  rfl

namespace Value

/-- Where all keys are fields, nothing but the fields is looked at. -/
theorem ofFields_of_known {fields : List String} {ofTable : Entries Value → Except Misfit α}
    (h : ∀ e ∈ t, e.1 ∈ fields) : asRecord.ofFields fields ofTable t = ofTable t := by
  have hnone : t.filter (fun e => !fields.contains e.1) = [] := by
    refine List.filter_eq_nil_iff.mpr fun e he => ?_
    simpa using h e he
  rw [asRecord.ofFields, hnone, entryTrouble?]

/-! ### What cannot be read -/

mutual
theorem trouble?_of_everyScalar {p : Value → Bool} (hp : ∀ kind, p (unreadable kind) = false) :
    (v : Value) → v.everyScalar p = true → v.trouble? = none
  | unreadable kind, h => by
    rw [everyScalar, hp] at h
    · cases h
    · simp
    · simp
  | array items, h => by
    rw [everyScalar] at h
    rw [trouble?, itemTrouble?_of_everyItem hp items 0 h]
  | table entries, h => by
    rw [everyScalar] at h
    rw [trouble?, entryTrouble?_of_everyEntry hp entries h]
  | text _, _ | integer _, _ | float _, _ | boolean _, _ | dateTime _, _ => by simp [trouble?]

theorem itemTrouble?_of_everyItem {p : Value → Bool}
    (hp : ∀ kind, p (unreadable kind) = false) :
    (items : List Value) → (place : Nat) → everyItem p items = true →
      itemTrouble? place items = none
  | [], _, _ => rfl
  | v :: rest, place, h => by
    rw [everyItem, Bool.and_eq_true] at h
    rw [itemTrouble?, trouble?_of_everyScalar hp v h.1]
    exact itemTrouble?_of_everyItem hp rest (place + 1) h.2

theorem entryTrouble?_of_everyEntry {p : Value → Bool}
    (hp : ∀ kind, p (unreadable kind) = false) :
    (entries : List (String × Value)) → everyEntry p entries = true →
      entryTrouble? entries = none
  | [], _ => rfl
  | (key, v) :: rest, h => by
    rw [everyEntry, Bool.and_eq_true] at h
    rw [entryTrouble?, trouble?_of_everyScalar hp v h.1,
      entryTrouble?_of_everyEntry hp rest h.2]
    rfl
end

/-- Nothing in a plain value is beyond reading. -/
theorem trouble?_of_plain {v : Value} (h : v.plain = true) : v.trouble? = none :=
  trouble?_of_everyScalar (fun _ => rfl) v h

theorem entryTrouble?_cons_of_none {key : String} {v : Value} (h : v.trouble? = none)
    (t : Entries Value) : entryTrouble? ((key, v) :: t) = entryTrouble? t := by
  rw [entryTrouble?, h]
  rfl

theorem entryTrouble?_append_congr (front : Entries Value) {t u : Entries Value}
    (h : entryTrouble? t = entryTrouble? u) :
    entryTrouble? (front ++ t) = entryTrouble? (front ++ u) := by
  induction front with
  | nil => exact h
  | cons e front ih =>
    rw [List.cons_append, List.cons_append, entryTrouble?, entryTrouble?, ih]

/-- What is found in entries is known by its key. -/
theorem exists_key_of_entryTrouble? {t : Entries Value} {m : Misfit}
    (h : entryTrouble? t = some m) : ∃ n key, m = Misfit.behind n (.key key) := by
  induction t generalizing m with
  | nil => cases h
  | cons e t ih =>
    obtain ⟨key, v⟩ := e
    rw [entryTrouble?] at h
    cases hv : v.trouble? with
    | none =>
      rw [hv] at h
      exact ih h
    | some n =>
      cases ht : entryTrouble? t with
      | none =>
        rw [hv, ht] at h
        cases h
        exact ⟨n, key, rfl⟩
      | some o =>
        obtain ⟨o, other, rfl⟩ := ih ht
        rw [hv, ht] at h
        have hm : (n.behind (.key key)).earlier (o.behind (.key other)) = m :=
          Option.some.inj h
        rw [Misfit.earlier_behind] at hm
        split at hm
        · exact ⟨o, other, hm.symm⟩
        · exact ⟨n, key, hm.symm⟩

/-- Entries with different keys may change places. -/
theorem entryTrouble?_swap {j k : String} (h : j ≠ k) (v w : Value) (t : Entries Value) :
    entryTrouble? ((j, v) :: (k, w) :: t) = entryTrouble? ((k, w) :: (j, v) :: t) := by
  simp only [entryTrouble?]
  cases v.trouble? with
  | none => cases w.trouble? <;> cases entryTrouble? t <;> rfl
  | some m =>
    cases w.trouble? with
    | none => cases entryTrouble? t <;> rfl
    | some n =>
      -- Of several misfits the one with the least key is noticed, in whatever order they come.
      cases ht : entryTrouble? t with
      | none => exact congrArg some (Misfit.earlier_behind_comm m n h)
      | some o =>
        obtain ⟨o, i, rfl⟩ := exists_key_of_entryTrouble? ht
        exact congrArg some (Misfit.earlier_behind_left_comm m n o i h)

/-- What cannot be read behind keys that are no fields of a record. -/
def strayTrouble? (fields : List String) (t : Entries Value) : Option Misfit :=
  entryTrouble? (t.filter fun e => !fields.contains e.1)

section
variable {fields : List String}

theorem strayTrouble?_append_cons {key : String} {v : Value}
    (h : key ∈ fields ∨ v.trouble? = none) (front back : Entries Value) :
    strayTrouble? fields (front ++ (key, v) :: back) = strayTrouble? fields (front ++ back) := by
  unfold strayTrouble?
  rw [List.filter_append, List.filter_append]
  refine entryTrouble?_append_congr _ ?_
  rw [List.filter_cons]
  split
  case isTrue hstray =>
    rcases h with hfield | hv
    · simp [hfield] at hstray
    · exact entryTrouble?_cons_of_none hv _
  case isFalse => rfl

theorem strayTrouble?_swap {j k : String} (h : j ≠ k) (v w : Value) (front back : Entries Value) :
    strayTrouble? fields (front ++ (j, v) :: (k, w) :: back) =
      strayTrouble? fields (front ++ (k, w) :: (j, v) :: back) := by
  unfold strayTrouble?
  rw [List.filter_append, List.filter_append]
  refine entryTrouble?_append_congr _ ?_
  simp only [List.filter_cons]
  split <;> split
  case isTrue.isTrue => exact entryTrouble?_swap h v w _
  all_goals rfl

/-- A record depends on what its fields give and on what cannot be read besides them. -/
theorem ofFields_congr {ofTable : Entries Value → Except Misfit α} {t u : Entries Value}
    (htable : ofTable t = ofTable u) (hstray : strayTrouble? fields t = strayTrouble? fields u) :
    asRecord.ofFields fields ofTable t = asRecord.ofFields fields ofTable u := by
  unfold strayTrouble? at hstray
  rw [asRecord.ofFields, asRecord.ofFields, htable, hstray]

end

/-! ### Whole numbers -/

theorem asWhole_integer (wanted : Wanted) {low high n : Int} (hlow : low ≤ n) (hhigh : n < high) :
    (integer n).asWhole wanted low high = .ok n := by
  rw [asWhole, if_pos ⟨hlow, hhigh⟩]

@[simp] theorem asWord32_toNat (n : UInt32) : (integer n.toNat).asWord32 = .ok n := by
  have hbound : (n.toNat : Int) < Nat.pow 2 32 := by exact_mod_cast n.toNat_lt
  rw [asWord32, asWhole_integer _ (Int.natCast_nonneg _) hbound]
  simp [Except.map]

theorem toNat_lt_wordEnd (n : UInt64) : (n.toNat : Int) < wordEnd := by
  unfold wordEnd
  exact_mod_cast n.toNat_lt

@[simp] theorem asWord64_toNat (n : UInt64) : (integer n.toNat).asWord64 = .ok n := by
  rw [asWord64, asWhole_integer _ (Int.natCast_nonneg _) (toNat_lt_wordEnd n)]
  simp [Except.map]

@[simp] theorem asSize_toNat (n : UInt64) : (integer n.toNat).asSize = .ok n := by
  rw [asSize, asWhole_integer _ (Int.natCast_nonneg _) (toNat_lt_wordEnd n)]
  simp [Except.map]

@[simp] theorem asSigned64_toInt (n : Int64) : (integer n.toInt).asSigned64 = .ok n := by
  have hlow : -signedEnd ≤ n.toInt := n.le_toInt
  have hhigh : n.toInt < signedEnd := n.toInt_lt
  rw [asSigned64, asWhole_integer _ hlow hhigh]
  simp [Except.map]

end Value
end Toml
end Hush
