import BtFramework.GattDiscovery

/-!
# Handle ranges of a database

What a discovery over a range of handles finds. A service's own range holds its includes
and characteristics and nothing of another service; the handles between a characteristic's
value and the next declaration, or the end of the service, hold its descriptors and
nothing else.
-/

namespace BtFramework.Gattc

open List PrimaryService

theorem filter_append_append {α : Type} {p : α → Bool} {front mid back : List α}
    (hfront : ∀ a ∈ front, p a = false) (hmid : ∀ a ∈ mid, p a = true)
    (hback : ∀ a ∈ back, p a = false) : (front ++ mid ++ back).filter p = mid := by
  have hf : front.filter p = [] := filter_eq_nil_iff.mpr (by simpa using hfront)
  have hb : back.filter p = [] := filter_eq_nil_iff.mpr (by simpa using hback)
  rw [filter_append, filter_append, hf, hb, filter_eq_self.mpr hmid]
  simp

/-! ## Handles of a service's parts -/

theorem PrimaryService.handle_mem_handles (s : PrimaryService) : s.handle ∈ s.handles := by
  simp [handles]

theorem PrimaryService.include_mem_handles {s : PrimaryService} {i : Include}
    (h : i ∈ s.includes) : i.handle ∈ s.handles := by
  simp only [handles, cons_append, mem_cons, mem_append, mem_map]
  exact .inr (.inl ⟨i, h, rfl⟩)

variable {n : Nat}

theorem PrimaryService.mem_handles_of_characteristic {s : PrimaryService} {c : Characteristic}
    (h : c ∈ s.characteristics) (hn : n ∈ c.handles) : n ∈ s.handles := by
  simp only [handles, cons_append, mem_cons, mem_append, mem_flatMap]
  exact .inr (.inr ⟨c, h, hn⟩)

theorem Characteristic.declHandle_mem (c : Characteristic) : c.declHandle ∈ c.handles := by
  simp [Characteristic.handles]

theorem Characteristic.valueHandle_mem (c : Characteristic) : c.valueHandle ∈ c.handles := by
  simp [Characteristic.handles]

theorem Characteristic.descriptor_mem {c : Characteristic} {d : Descriptor}
    (h : d ∈ c.descriptors) : d.handle ∈ c.handles := by
  simp only [Characteristic.handles, mem_cons, mem_map]
  exact .inr (.inr ⟨d, h, rfl⟩)

/-! ## Order -/

section Order

variable {db : Database} {done rest : List PrimaryService} {s : PrimaryService}

theorem Database.handle_le (db : Database) (hs : s ∈ db.services) (hn : n ∈ s.handles) :
    s.handle ≤ n := by
  have hinc := db.increasing s hs
  rw [handles, cons_append, pairwise_cons] at hinc
  rw [handles, cons_append, mem_cons] at hn
  rcases hn with rfl | hn
  · exact le_refl _
  · exact le_of_lt (hinc.1 n hn)

theorem primariesIn_all (db : Database) : db.primariesIn 1 65535 = db.services := by
  refine filter_eq_self.mpr fun s hs => ?_
  have hpos := db.first s hs
  have hle := db.within s hs _ s.handle_mem_handles
  have hlast := db.last s hs
  simp only [decide_eq_true_eq]
  omega

theorem descriptorsIn_all (db : Database) : db.descriptorsIn 0 65535 = db.descriptors := by
  refine filter_eq_self.mpr fun d hd => ?_
  obtain ⟨c, hc, hd⟩ := mem_flatMap.mp hd
  obtain ⟨s, hs, hc⟩ := mem_flatMap.mp hc
  have hle := db.within s hs _ (mem_handles_of_characteristic hc (Characteristic.descriptor_mem hd))
  have hlast := db.last s hs
  simp only [decide_eq_true_eq]
  omega

variable (hsplit : db.services = done ++ s :: rest)
include hsplit

theorem mem_services : s ∈ db.services := by
  rw [hsplit]
  simp

theorem lt_handle_of_done {t : PrimaryService} (ht : t ∈ done) (hn : n ∈ t.handles) :
    n < s.handle := by
  have happ := db.apart
  rw [hsplit, pairwise_append] at happ
  have hlt := happ.2.2 t ht s (by simp)
  have hle := db.within t (by rw [hsplit]; simp [ht]) n hn
  omega

theorem endHandle_lt_of_rest {t : PrimaryService} (ht : t ∈ rest) (hn : n ∈ t.handles) :
    s.endHandle < n := by
  have happ := db.apart
  rw [hsplit, pairwise_append, pairwise_cons] at happ
  have hlt := happ.2.1.1 t ht
  have hle := db.handle_le (by rw [hsplit]; simp [ht] : t ∈ db.services) hn
  omega

theorem rest_eq_nil_of_endHandle (h : s.endHandle = 65535) : rest = [] := by
  cases hr : rest with
  | nil => rfl
  | cons t ts =>
    have hlt := endHandle_lt_of_rest hsplit (t := t) (by simp [hr]) t.handle_mem_handles
    have htm : t ∈ db.services := by rw [hsplit, hr]; simp
    have hlast := db.last t htm
    have hle := db.within t htm _ t.handle_mem_handles
    omega

theorem filter_flatMap_service {α : Type} {f : PrimaryService → List α} {handle : α → Nat}
    (hf : ∀ t, ∀ a ∈ f t, handle a ∈ t.handles) :
    (db.services.flatMap f).filter
      (fun a => decide (s.handle ≤ handle a ∧ handle a ≤ s.endHandle)) = f s := by
  rw [hsplit, flatMap_append, flatMap_cons, ← append_assoc]
  apply filter_append_append
  · intro a ha
    obtain ⟨t, ht, ha⟩ := mem_flatMap.mp ha
    have hlt := lt_handle_of_done hsplit ht (hf t a ha)
    simp only [decide_eq_false_iff_not]
    omega
  · intro a ha
    have hs := mem_services hsplit
    exact decide_eq_true ⟨db.handle_le hs (hf s a ha), db.within s hs _ (hf s a ha)⟩
  · intro a ha
    obtain ⟨t, ht, ha⟩ := mem_flatMap.mp ha
    have hlt := endHandle_lt_of_rest hsplit ht (hf t a ha)
    simp only [decide_eq_false_iff_not]
    omega

theorem includesIn_service : db.includesIn s.handle s.endHandle = s.includes :=
  filter_flatMap_service hsplit fun _ _ h => include_mem_handles h

theorem characteristicsIn_service : db.characteristicsIn s.handle s.endHandle = s.characteristics :=
  filter_flatMap_service hsplit fun _ c h =>
    mem_handles_of_characteristic h c.declHandle_mem

section

variable {cdone crest : List Characteristic} {c : Characteristic}
  (hchars : s.characteristics = cdone ++ c :: crest)
include hchars

theorem lt_of_cdone {c' : Characteristic} (hc : c' ∈ cdone) {m n : Nat}
    (hm : m ∈ c'.handles) (hn : n ∈ c.handles) : m < n := by
  have hinc := db.increasing s (mem_services hsplit)
  rw [handles, pairwise_append, hchars, flatMap_append, pairwise_append] at hinc
  exact hinc.2.1.2.2 m (mem_flatMap.mpr ⟨c', hc, hm⟩) n (mem_flatMap.mpr ⟨c, by simp, hn⟩)

theorem lt_of_crest {c' : Characteristic} (hc : c' ∈ crest) {m n : Nat}
    (hm : m ∈ c'.handles) (hn : n ∈ c.handles) : n < m := by
  have hinc := db.increasing s (mem_services hsplit)
  rw [handles, pairwise_append, hchars, flatMap_append,
    pairwise_append, flatMap_cons, pairwise_append] at hinc
  exact hinc.2.1.2.1.2.2 n hn m (mem_flatMap.mpr ⟨c', hc, hm⟩)

theorem handles_characteristic : c.handles.Pairwise (· < ·) := by
  have hinc := db.increasing s (mem_services hsplit)
  rw [handles, pairwise_append, hchars, flatMap_append,
    pairwise_append, flatMap_cons, pairwise_append] at hinc
  exact hinc.2.1.2.1.1

theorem le_endHandle (hn : n ∈ c.handles) : n ≤ s.endHandle :=
  db.within s (mem_services hsplit) n (mem_handles_of_characteristic (by rw [hchars]; simp) hn)

theorem declHandle_le (hn : n ∈ c.handles) : c.declHandle ≤ n := by
  have hinc := handles_characteristic hsplit hchars
  rw [Characteristic.handles, pairwise_cons] at hinc
  rw [Characteristic.handles, mem_cons] at hn
  rcases hn with rfl | hn
  · exact le_refl _
  · exact le_of_lt (hinc.1 n hn)

theorem valueHandle_lt {d : Descriptor} (hd : d ∈ c.descriptors) : c.valueHandle < d.handle := by
  have hinc := handles_characteristic hsplit hchars
  rw [Characteristic.handles, pairwise_cons, pairwise_cons] at hinc
  exact hinc.2.1 d.handle (mem_map.mpr ⟨d, hd, rfl⟩)

/-! ## What the ranges hold -/

theorem descriptorsIn_of_covers {hi : Nat}
    (hown : ∀ d ∈ c.descriptors, d.handle ≤ hi)
    (hcrest : ∀ c' ∈ crest, ∀ n ∈ c'.handles, hi < n) (hend : hi ≤ s.endHandle) :
    db.descriptorsIn (c.valueHandle + 1) hi = c.descriptors := by
  have hlist : db.descriptors
      = (done.flatMap characteristics ++ cdone).flatMap
          Characteristic.descriptors ++ c.descriptors
        ++ (crest ++ rest.flatMap characteristics).flatMap
          Characteristic.descriptors := by
    simp [Database.descriptors, hsplit, hchars]
  rw [Database.descriptorsIn, hlist]
  apply filter_append_append
  · intro d hd
    obtain ⟨c', hc', hd⟩ := mem_flatMap.mp hd
    simp only [decide_eq_false_iff_not]
    rcases mem_append.mp hc' with hc' | hc'
    · obtain ⟨t, ht, hc'⟩ := mem_flatMap.mp hc'
      have hlt := lt_handle_of_done hsplit ht
        (mem_handles_of_characteristic hc' (Characteristic.descriptor_mem hd))
      have hle := db.handle_le (mem_services hsplit)
        (mem_handles_of_characteristic (by rw [hchars]; simp) c.valueHandle_mem)
      omega
    · have hlt := lt_of_cdone hsplit hchars hc' (Characteristic.descriptor_mem hd)
        c.valueHandle_mem
      omega
  · intro d hd
    exact decide_eq_true ⟨valueHandle_lt hsplit hchars hd, hown d hd⟩
  · intro d hd
    obtain ⟨c', hc', hd⟩ := mem_flatMap.mp hd
    simp only [decide_eq_false_iff_not]
    rcases mem_append.mp hc' with hc' | hc'
    · have hlt := hcrest c' hc' _ (Characteristic.descriptor_mem hd)
      omega
    · obtain ⟨t, ht, hc'⟩ := mem_flatMap.mp hc'
      have hlt := endHandle_lt_of_rest hsplit ht
        (mem_handles_of_characteristic hc' (Characteristic.descriptor_mem hd))
      omega

end

variable {cdone crest : List Characteristic} {c d : Characteristic}

section

variable (hchars : s.characteristics = cdone ++ c :: d :: crest)
include hchars

theorem valueHandle_lt_declHandle : c.valueHandle < d.declHandle :=
  lt_of_crest hsplit hchars (by simp) d.declHandle_mem c.valueHandle_mem

theorem descriptor_lt_declHandle {x : Descriptor} (hx : x ∈ c.descriptors) :
    x.handle < d.declHandle :=
  lt_of_crest hsplit hchars (by simp) d.declHandle_mem (Characteristic.descriptor_mem hx)

theorem descriptorsIn_gap :
    db.descriptorsIn (c.valueHandle + 1) (d.declHandle - 1) = c.descriptors := by
  have hchars' : s.characteristics = (cdone ++ [c]) ++ d :: crest := by simp [hchars]
  have hend := le_endHandle hsplit hchars' d.declHandle_mem
  have hvd := valueHandle_lt_declHandle hsplit hchars
  refine descriptorsIn_of_covers hsplit hchars ?_ ?_ (by omega)
  · intro x hx
    have hlt := descriptor_lt_declHandle hsplit hchars hx
    omega
  · intro c' hc' n hn
    rcases mem_cons.mp hc' with rfl | hc'
    · have hle := declHandle_le hsplit hchars' hn
      omega
    · have hlt := lt_of_crest hsplit hchars' hc' hn d.declHandle_mem
      omega

theorem descriptors_eq_nil_of_packed (hgap : d.declHandle ≤ c.valueHandle + 1) :
    c.descriptors = [] := by
  rw [eq_nil_iff_forall_not_mem]
  intro x hx
  have hlt := valueHandle_lt hsplit hchars hx
  have hlt' := descriptor_lt_declHandle hsplit hchars hx
  omega

end

theorem declHandle_le_65535 (hchars : s.characteristics = cdone ++ c :: crest) :
    c.declHandle ≤ 65535 :=
  (le_endHandle hsplit hchars c.declHandle_mem).trans (db.last s (mem_services hsplit))

theorem descriptorsIn_last (hchars : s.characteristics = cdone ++ [c]) :
    db.descriptorsIn (c.valueHandle + 1) s.endHandle = c.descriptors :=
  descriptorsIn_of_covers hsplit hchars
    (fun _ hx => le_endHandle hsplit hchars (Characteristic.descriptor_mem hx)) (by simp)
    (le_refl _)

theorem descriptors_eq_nil_of_bare (hchars : s.characteristics = cdone ++ [c])
    (hend : s.endHandle ≤ c.valueHandle) : c.descriptors = [] := by
  rw [eq_nil_iff_forall_not_mem]
  intro x hx
  have hlt := valueHandle_lt hsplit hchars hx
  have hle := le_endHandle hsplit hchars (Characteristic.descriptor_mem hx)
  omega

end Order

end BtFramework.Gattc
