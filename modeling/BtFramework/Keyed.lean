import Mathlib.Data.List.Lookmap
import Mathlib.Data.List.Nodup

/-!
# Lists of records with a key

A list of heap objects or table rows, each with a key: update the record with a given
key in place, remove it, look it up. What the operations mean is given by membership;
uniqueness of a key is `(l.map key).Nodup`, and every operation keeps it. Acting on the
first match of a predicate is acting on all when there is at most one
(`eraseP_eq_filter`, `lookmap_eq_map`).
-/

namespace Keyed

open List

variable {α ι : Type*} [DecidableEq ι] {key : α → ι} {l : List α} {k : ι}

def update (key : α → ι) (k : ι) (f : α → α) (l : List α) : List α :=
  l.map fun a => if key a = k then f a else a

def remove (key : α → ι) (k : ι) (l : List α) : List α :=
  l.filter fun a => key a ≠ k

variable {f : α → α} {a b : α} {β : Type*} {p : α → Bool}

theorem mem_update :
    b ∈ update key k f l ↔ (∃ a ∈ l, key a = k ∧ f a = b) ∨ (b ∈ l ∧ key b ≠ k) := by
  rw [update, mem_map]
  constructor
  · rintro ⟨a, ha, rfl⟩
    by_cases h : key a = k
    · exact .inl ⟨a, ha, h, by rw [if_pos h]⟩
    · exact .inr ⟨by rwa [if_neg h], by rwa [if_neg h]⟩
  · rintro (⟨a, ha, h, rfl⟩ | ⟨hb, h⟩)
    · exact ⟨a, ha, if_pos h⟩
    · exact ⟨b, hb, if_neg h⟩

theorem forall_mem_update {P : α → Prop} (hnew : ∀ a ∈ l, key a = k → P (f a))
    (h : ∀ a ∈ l, P a) : ∀ b ∈ update key k f l, P b := by
  intro b hb
  rcases mem_update.mp hb with ⟨a, ha, hk, rfl⟩ | ⟨hb, -⟩
  · exact hnew a ha hk
  · exact h b hb

theorem mem_remove : b ∈ remove key k l ↔ b ∈ l ∧ key b ≠ k := by
  simp [remove]

@[simp] theorem length_update (f : α → α) : (update key k f l).length = l.length := by
  simp [update]

theorem map_update {g : α → β} (hf : ∀ a ∈ l, key a = k → g (f a) = g a) :
    (update key k f l).map g = l.map g := by
  rw [update, map_map]
  apply map_congr_left
  intro a ha
  by_cases h : key a = k
  · simp [h, hf a ha h]
  · simp [h]

theorem map_update_comm {g : α → β} {key' : β → ι} {f' : β → β} (hkey : ∀ a, key' (g a) = key a)
    (hf : ∀ a ∈ l, key a = k → g (f a) = f' (g a)) :
    (update key k f l).map g = update key' k f' (l.map g) := by
  rw [update, update, map_map, map_map]
  apply map_congr_left
  intro a ha
  by_cases h : key a = k
  · simp [h, hkey, hf a ha h]
  · simp [h, hkey]

theorem update_eq_self (h : ∀ a ∈ l, key a ≠ k) : update key k f l = l := by
  rw [update, map_congr_left (g := id), map_id]
  intro a ha
  exact if_neg (h a ha)

theorem update_concat (h : ∀ a ∈ l, key a ≠ k) (hb : key b = k) :
    update key k f (l ++ [b]) = l ++ [f b] := by
  rw [update, map_append, ← update, update_eq_self h, map_singleton, if_pos hb]

theorem update_concat_of_ne (hb : key b ≠ k) :
    update key k f (l ++ [b]) = update key k f l ++ [b] := by
  rw [update, map_append, ← update, map_singleton, if_neg hb]

theorem remove_concat (h : ∀ a ∈ l, key a ≠ k) (hb : key b = k) : remove key k (l ++ [b]) = l := by
  rw [remove, filter_append, filter_cons_of_neg (by simpa using hb), filter_nil,
    append_nil, filter_eq_self]
  intro a ha
  exact decide_eq_true (h a ha)

theorem update_update {g : α → α} (hf : ∀ a ∈ l, key a = k → key (f a) = k) :
    update key k g (update key k f l) = update key k (g ∘ f) l := by
  rw [update, update, map_map]
  apply map_congr_left
  intro a ha
  by_cases hk : key a = k
  · simp [hk, hf a ha hk]
  · simp [hk]

theorem nodup_remove {g : α → β} (h : (l.map g).Nodup) : ((remove key k l).map g).Nodup :=
  h.sublist (filter_sublist.map g)

theorem filter_update_head (h : (l.map key).Nodup) {rest : List α} (ha : l.filter p = a :: rest)
    (f : α → α) :
    (update key (key a) f l).filter p = [f a].filter p ++ rest := by
  obtain ⟨pre, post, rfl, hpre, -, rfl⟩ := filter_eq_cons_iff.mp ha
  rw [map_append, map_cons] at h
  obtain ⟨-, hpost, hdisjoint⟩ := nodup_append.mp h
  have hleft : ∀ b ∈ pre, key b ≠ key a := fun b hb =>
    hdisjoint _ (mem_map_of_mem hb) _ (mem_cons_self ..)
  have hright : ∀ b ∈ post, key b ≠ key a := fun b hb heq =>
    (nodup_cons.mp hpost).1 (heq ▸ mem_map_of_mem hb)
  have hnone : pre.filter p = [] := filter_eq_nil_iff.mpr hpre
  have hupdate : update key (key a) f (pre ++ a :: post) = pre ++ [f a] ++ post := by
    rw [← append_cons, update, map_append, map_cons, if_pos rfl, ← update, ← update,
      update_eq_self hleft, update_eq_self hright]
  rw [hupdate, filter_append, filter_append, hnone, nil_append]

theorem perm_cons_remove (h : (l.map key).Nodup) (ha : a ∈ l) :
    l.Perm (a :: remove key (key a) l) := by
  induction l with
  | nil => cases ha
  | cons b l ih =>
    obtain ⟨hb, hl⟩ := nodup_cons.mp h
    rw [remove]
    rcases mem_cons.mp ha with rfl | ha
    · have hrest : ∀ c ∈ l, decide (key c ≠ key a) = true := fun c hc =>
        decide_eq_true fun heq => hb (heq ▸ mem_map_of_mem hc)
      rw [filter_cons_of_neg (by simp), filter_eq_self.mpr hrest]
    · have hne : key b ≠ key a := fun heq => hb (heq ▸ mem_map_of_mem ha)
      rw [filter_cons_of_pos (by simpa using hne)]
      exact ((ih hl ha).cons b).trans (List.Perm.swap a b _)

omit [DecidableEq ι] in
theorem nodup_filterMap {f : α → Option α} (hf : ∀ a b, f a = some b → key b = key a)
    (h : (l.map key).Nodup) : ((l.filterMap f).map key).Nodup := by
  have hsub : ((l.filterMap f).map key).Sublist (l.map key) := by
    clear h
    induction l with
    | nil => exact List.Sublist.slnil
    | cons a l ih =>
      rw [filterMap_cons]
      cases hfa : f a with
      | none => exact ih.cons _
      | some b =>
        rw [map_cons, map_cons, hf a b hfa]
        exact ih.cons_cons _
  exact List.Nodup.sublist hsub h

theorem nodup_concat {g : α → β} (h : (l.map g).Nodup) (hnew : ∀ b ∈ l, g b ≠ g a) :
    ((l ++ [a]).map g).Nodup := by
  rw [map_append, nodup_append]
  refine ⟨h, nodup_singleton _, ?_⟩
  intro x hx y hy
  obtain ⟨b, hb, rfl⟩ := mem_map.mp hx
  rw [map_singleton, mem_singleton] at hy
  rw [hy]
  exact hnew b hb

theorem forall_mem_concat {P : α → Prop} : (∀ b ∈ l ++ [a], P b) ↔ (∀ b ∈ l, P b) ∧ P a := by
  rw [forall_mem_append, forall_mem_singleton]

theorem mem_of_find? (h : l.find? (fun b => key b = k) = some a) : a ∈ l ∧ key a = k :=
  ⟨mem_of_find?_eq_some h, by simpa using find?_some h⟩

theorem find?_eq_none (h : l.find? (fun b => key b = k) = none) (ha : a ∈ l) : key a ≠ k := by
  simpa using List.find?_eq_none.mp h a ha

theorem find?_update_self (hf : ∀ a, key (f a) = key a) :
    (update key k f l).find? (fun b => key b = k) = (l.find? fun b => key b = k).map f := by
  induction l with
  | nil => rfl
  | cons a l ih =>
    rw [update, map_cons, ← update]
    by_cases h : key a = k
    · simp [h, hf]
    · simp [h, ih]

theorem find?_update_of_ne (hf : ∀ a, key (f a) = key a) {k' : ι} (hne : k' ≠ k) :
    (update key k f l).find? (fun b => key b = k') = l.find? fun b => key b = k' := by
  induction l with
  | nil => rfl
  | cons a l ih =>
    rw [update, map_cons, ← update]
    by_cases h : key a = k
    · simp [h, hf, ih, hne.symm]
    · simp [h, find?_cons, ih]

theorem find?_update_of_same (hf : ∀ b, p (f b) = p b) (h : l.find? p = some a) :
    (update key (key a) f l).find? p = some (f a) := by
  have hsame : (p ∘ fun b => if key b = key a then f b else b) = p := by
    funext b
    by_cases hb : key b = key a
    · simp [hb, hf]
    · simp [hb]
  rw [update, find?_map, hsame, h, Option.map_some, if_pos rfl]

theorem find?_remove (h : l.find? p = some a) (hne : key a ≠ k) :
    (remove key k l).find? p = some a := by
  induction l with
  | nil => cases h
  | cons b l ih =>
    rw [find?_cons] at h
    by_cases hb : p b = true
    · rw [hb] at h
      cases h
      rw [remove, filter_cons_of_pos (by simpa using hne), find?_cons, hb]
    · rw [Bool.not_eq_true] at hb
      rw [hb] at h
      by_cases hk : key b = k
      · rw [remove, filter_cons_of_neg (by simpa using hk)]
        exact ih h
      · rw [remove, filter_cons_of_pos (by simpa using hk), find?_cons, hb]
        exact ih h

theorem find?_eq_some (hn : (l.map key).Nodup) :
    l.find? (fun b => key b = k) = some a ↔ a ∈ l ∧ key a = k := by
  refine ⟨mem_of_find?, ?_⟩
  rintro ⟨ha, hk⟩
  cases hf : l.find? (fun b => key b = k) with
  | none => exact absurd hk (find?_eq_none hf ha)
  | some b =>
    obtain ⟨hb, hbk⟩ := mem_of_find? hf
    rw [inj_on_of_nodup_map hn hb ha (hbk.trans hk.symm)]

/-! ## The first match

A search that returns a pointer acts on the first record it matches: a change
through the pointer is `List.lookmap`, a removal `List.eraseP`. -/

section FirstMatch

variable {α β : Type*} {l : List α}

theorem eraseP_eq_filter {p : α → Bool} (h : l.Pairwise fun a b => p a = true → p b = false) :
    l.eraseP p = l.filter fun a => !p a := by
  induction l with
  | nil => rfl
  | cons a l ih =>
    obtain ⟨ha, hl⟩ := pairwise_cons.mp h
    cases hp : p a with
    | true =>
      have hrest : l.filter (fun b => !p b) = l :=
        filter_eq_self.mpr fun b hb => by rw [ha b hb hp]; rfl
      rw [eraseP_cons_of_pos hp, filter_cons_of_neg (by simp [hp]), hrest]
    | false =>
      rw [eraseP_cons_of_neg (by simp [hp]), filter_cons_of_pos (by simp [hp]), ih hl]

theorem lookmap_eq_map {f : α → Option α}
    (h : l.Pairwise fun a b => (f a).isSome = true → f b = none) :
    l.lookmap f = l.map fun a => (f a).getD a := by
  induction l with
  | nil => rfl
  | cons a l ih =>
    obtain ⟨ha, hl⟩ := pairwise_cons.mp h
    cases hf : f a with
    | none => rw [lookmap_cons_none _ _ hf, map_cons, hf, ih hl]; rfl
    | some b =>
      have hrest : l.map (fun c => (f c).getD c) = l := by
        refine (map_congr_left fun c hc => ?_).trans (map_id l)
        rw [ha c hc (by rw [hf]; rfl)]
        rfl
      rw [lookmap_cons_some _ _ hf, map_cons, hf, hrest]
      rfl

theorem lookmap_map_of_find? {p : β → Bool} {v : α → β} {f : α → α} {a : α}
    (h : l.find? (fun x => p (v x)) = some a) :
    (l.map v).lookmap (fun y => if p y then some (v (f a)) else none)
      = (l.lookmap fun x => if p (v x) then some (f x) else none).map v := by
  induction l with
  | nil => exact absurd h nofun
  | cons x l ih =>
    rw [find?_cons] at h
    rw [map_cons, lookmap_cons, lookmap_cons]
    cases hp : p (v x) with
    | true =>
      rw [hp, Option.some.injEq] at h
      rw [h, if_pos rfl, if_pos rfl, map_cons]
    | false =>
      rw [hp] at h
      simp only [Bool.false_eq_true, if_false, map_cons]
      rw [ih h]

theorem forall_mem_lookmap {P : α → Prop} {p : α → Bool} {f : α → α} {a : α}
    (hfind : l.find? p = some a) (h : ∀ b ∈ l, P b) (ha : P (f a)) :
    ∀ b ∈ l.lookmap (fun x => if p x then some (f x) else none), P b := by
  induction l with
  | nil => exact h
  | cons x l ih =>
    have hl := fun c hc => h c (mem_cons_of_mem x hc)
    rw [find?_cons] at hfind
    rw [lookmap_cons]
    cases hp : p x with
    | true =>
      rw [hp, Option.some.injEq] at hfind
      rw [if_pos rfl, hfind]
      exact forall_mem_cons.mpr ⟨ha, hl⟩
    | false =>
      rw [hp] at hfind
      exact forall_mem_cons.mpr ⟨h x mem_cons_self, ih hfind hl⟩

theorem find?_lookmap {p : α → Bool} {f : α → α} {a : α} (hfind : l.find? p = some a)
    (ha : p (f a) = true) :
    (l.lookmap fun x => if p x then some (f x) else none).find? p = some (f a) := by
  induction l with
  | nil => cases hfind
  | cons x l ih =>
    rw [find?_cons] at hfind
    rw [lookmap_cons]
    cases hp : p x with
    | true =>
      rw [hp, Option.some.injEq] at hfind
      rw [if_pos rfl, hfind, find?_cons_of_pos ha]
    | false =>
      rw [hp] at hfind
      simp only [Bool.false_eq_true, if_false]
      rw [find?_cons_of_neg (by simp [hp]), ih hfind]

theorem filter_lookmap {p q : α → Bool} {f : α → α} (hq : ∀ a, p a = true → q a = false)
    (hf : ∀ a, p a = true → q (f a) = false) :
    (l.lookmap fun x => if p x then some (f x) else none).filter q = l.filter q := by
  induction l with
  | nil => rfl
  | cons x l ih =>
    rw [lookmap_cons]
    cases hp : p x with
    | true => simp [hq x hp, hf x hp]
    | false => simp [filter_cons, ih]

theorem filter_lookmap_self {p : α → Bool} {f : α → α} (hf : ∀ a, p a = true → p (f a) = true) :
    (l.lookmap fun x => if p x then some (f x) else none).filter p = (l.filter p).modifyHead f := by
  induction l with
  | nil => rfl
  | cons x l ih =>
    cases hp : p x with
    | true => simp [hp, hf x hp]
    | false => simp [hp, ih]

theorem filter_eraseP {p q : α → Bool} (hq : ∀ a, p a = true → q a = false) :
    (l.eraseP p).filter q = l.filter q := by
  induction l with
  | nil => rfl
  | cons x l ih =>
    cases hp : p x with
    | true => simp [hp, hq x hp]
    | false => simp [filter_cons, hp, ih]

end FirstMatch

/-! ## The first record with a key -/

section FirstKey

variable {α ι : Type*} [DecidableEq ι] {key : α → ι} {l : List α} {k : ι}

def modifyFirst (key : α → ι) (k : ι) (f : α → α) (l : List α) : List α :=
  l.lookmap fun a => if key a = k then some (f a) else none

def removeFirst (key : α → ι) (k : ι) (l : List α) : List α := l.eraseP fun a => key a = k

omit [DecidableEq ι] in
theorem pairwise_key_ne (hn : (l.map key).Nodup) : l.Pairwise fun a b => key a = k → key b ≠ k :=
  (pairwise_map.mp hn).imp fun hne ha hb => hne (ha.trans hb.symm)

theorem modifyFirst_eq_update (hn : (l.map key).Nodup) (f : α → α) :
    modifyFirst key k f l = update key k f l := by
  rw [modifyFirst, lookmap_eq_map]
  · refine map_congr_left fun a _ => ?_
    by_cases ha : key a = k
    · rw [if_pos ha, if_pos ha]; rfl
    · rw [if_neg ha, if_neg ha]; rfl
  · refine (pairwise_key_ne hn).imp fun {a b} hne hsome => if_neg (hne ?_)
    by_contra ha
    rw [if_neg ha] at hsome
    exact Bool.noConfusion hsome

theorem removeFirst_eq_remove (hn : (l.map key).Nodup) : removeFirst key k l = remove key k l := by
  rw [removeFirst, eraseP_eq_filter, remove]
  · exact filter_congr fun a _ => by simp
  · exact (pairwise_key_ne hn).imp fun hne ha =>
      decide_eq_false (hne (of_decide_eq_true ha))

variable {f : α → α} {k' : ι}

theorem decide_key_of_ne (hne : k' ≠ k) (a : α) (h : decide (key a = k) = true) :
    decide (key a = k') = false :=
  decide_eq_false fun h' => hne (h'.symm.trans (of_decide_eq_true h))

theorem filter_modifyFirst_of_ne (hne : k' ≠ k) (hf : ∀ a, key (f a) = key a) :
    (modifyFirst key k f l).filter (key · = k') = l.filter (key · = k') := by
  have hkey : ∀ a, decide (key a = k) = true → decide (key a = k') = false := decide_key_of_ne hne
  have h := filter_lookmap (l := l) (f := f) hkey fun a ha => by rw [hf, hkey a ha]
  simpa [modifyFirst] using h

theorem filter_modifyFirst_self (hf : ∀ a, key (f a) = key a) :
    (modifyFirst key k f l).filter (key · = k) = (l.filter (key · = k)).modifyHead f := by
  have h := filter_lookmap_self (l := l) (p := fun a => decide (key a = k)) (f := f) (by simp [hf])
  simpa [modifyFirst] using h

theorem filter_removeFirst_of_ne (hne : k' ≠ k) :
    (removeFirst key k l).filter (key · = k') = l.filter (key · = k') :=
  filter_eraseP (decide_key_of_ne hne)

end FirstKey

end Keyed
