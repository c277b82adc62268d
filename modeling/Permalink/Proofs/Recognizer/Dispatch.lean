import Mathlib.Data.List.Induction
import Mathlib.Data.List.Sort
import Permalink.Recognizer

set_option autoImplicit false

namespace Permalink.Registry

def notAfter (a b : Recognizer) : Bool := b.priority ≤ a.priority

theorem notAfter_trans (a b c : Recognizer) (hab : notAfter a b = true)
    (hbc : notAfter b c = true) : notAfter a c = true := by
  simp only [notAfter, decide_eq_true_eq] at hab hbc ⊢
  omega

theorem notAfter_total (a b : Recognizer) : (notAfter a b || notAfter b a) = true := by
  simp only [notAfter, Bool.or_eq_true, decide_eq_true_eq]
  omega

def InOrder (recognizers : List Recognizer) : Prop :=
  recognizers.Pairwise fun a b => b.priority ≤ a.priority

def ofPriority (recognizers : List Recognizer) (priority : Int) : List Recognizer :=
  recognizers.filter (·.priority == priority)

theorem mem_ofPriority {recognizers : List Recognizer} {priority : Int} {recognizer : Recognizer} :
    recognizer ∈ ofPriority recognizers priority ↔
      recognizer ∈ recognizers ∧ recognizer.priority = priority := by
  simp [ofPriority]

theorem insert_perm (new : Recognizer) (recognizers : List Recognizer) :
    (insert new recognizers).Perm (new :: recognizers) := by
  induction recognizers with
  | nil => exact List.Perm.refl _
  | cons old rest ih =>
    rw [insert]
    split
    · exact List.Perm.refl _
    · exact (ih.cons old).trans (List.Perm.swap new old rest)

theorem InOrder.le_head {first : Recognizer} {others : List Recognizer}
    (h : InOrder (first :: others)) {other : Recognizer} (hmem : other ∈ first :: others) :
    other.priority ≤ first.priority := by
  rcases List.mem_cons.mp hmem with rfl | hmem
  · exact le_refl _
  · exact (List.pairwise_cons.mp h).1 other hmem

theorem insert_inOrder {recognizers : List Recognizer} (h : InOrder recognizers)
    (new : Recognizer) : InOrder (insert new recognizers) := by
  induction recognizers with
  | nil => exact List.pairwise_singleton _ _
  | cons old rest ih =>
    obtain ⟨hold, hrest⟩ := List.pairwise_cons.mp h
    rw [insert]
    split
    · rename_i hlt
      refine List.pairwise_cons.mpr ⟨fun other hmem => ?_, h⟩
      have hle := h.le_head hmem
      omega
    · rename_i hge
      refine List.pairwise_cons.mpr ⟨fun other hmem => ?_, ih hrest⟩
      rcases List.mem_cons.mp ((insert_perm new rest).mem_iff.mp hmem) with rfl | hmem
      · omega
      · exact hold other hmem

/-- Among those of its priority, a new recognizer is the last. -/
theorem ofPriority_insert {recognizers : List Recognizer} (h : InOrder recognizers)
    (new : Recognizer) (priority : Int) :
    ofPriority (insert new recognizers) priority = ofPriority (recognizers ++ [new]) priority := by
  induction recognizers with
  | nil => rfl
  | cons old rest ih =>
    have hrest := (List.pairwise_cons.mp h).2
    rw [insert]
    split
    · rename_i hlt
      by_cases hp : new.priority = priority
      · have hnone : ofPriority (old :: rest) priority = [] := by
          refine List.filter_eq_nil_iff.mpr fun other hmem => ?_
          have hle := h.le_head hmem
          rw [beq_iff_eq]
          omega
        unfold ofPriority at hnone ⊢
        rw [List.filter_append, List.filter_cons, hnone]
        simp [hp]
      · simp [ofPriority, hp, List.filter_cons]
    · have hcons := ih hrest
      unfold ofPriority at hcons ⊢
      rw [List.cons_append, List.filter_cons, List.filter_cons, hcons]

theorem mem_of_ofPriority_eq {xs ys : List Recognizer}
    (h : ∀ priority, ofPriority xs priority = ofPriority ys priority) {x : Recognizer}
    (hx : x ∈ xs) : x ∈ ys := by
  have hmem := mem_ofPriority.mpr ⟨hx, rfl⟩
  rw [h] at hmem
  exact (mem_ofPriority.mp hmem).1

/-- The priorities leave no choice but among equals. -/
theorem eq_of_ofPriority_eq {xs ys : List Recognizer} (hx : InOrder xs) (hy : InOrder ys)
    (h : ∀ priority, ofPriority xs priority = ofPriority ys priority) : xs = ys := by
  induction xs generalizing ys with
  | nil =>
    cases ys with
    | nil => rfl
    | cons y ys =>
      have hmem := mem_of_ofPriority_eq (fun priority => (h priority).symm) (x := y) (by simp)
      exact absurd hmem (by simp)
  | cons x xs ih =>
    cases ys with
    | nil => exact absurd (mem_of_ofPriority_eq h (x := x) (by simp)) (by simp)
    | cons y ys =>
      -- Each head is in the other list, so neither has the higher priority.
      have hle := hy.le_head (mem_of_ofPriority_eq h List.mem_cons_self)
      have hge := hx.le_head (mem_of_ofPriority_eq (fun p => (h p).symm) List.mem_cons_self)
      have hp : x.priority = y.priority := le_antisymm hle hge
      have hhead : x = y := by
        have hfilter := h y.priority
        simp only [ofPriority, List.filter_cons, hp, beq_self_eq_true, if_true] at hfilter
        exact (List.cons.inj hfilter).1
      subst hhead
      have hxs := (List.pairwise_cons.mp hx).2
      have hys := (List.pairwise_cons.mp hy).2
      refine congrArg (x :: ·) (ih hxs hys fun priority => ?_)
      have hfilter := h priority
      unfold ofPriority at hfilter ⊢
      rw [List.filter_cons, List.filter_cons] at hfilter
      split at hfilter
      · exact (List.cons.inj hfilter).2
      · exact hfilter

theorem mergeSort_inOrder (recognizers : List Recognizer) :
    InOrder (recognizers.mergeSort notAfter) := by
  refine (List.pairwise_mergeSort notAfter_trans notAfter_total recognizers).imp fun h => ?_
  simpa [notAfter] using h

theorem ofPriority_mergeSort (recognizers : List Recognizer) (priority : Int) :
    ofPriority (recognizers.mergeSort notAfter) priority = ofPriority recognizers priority := by
  have hequal : (ofPriority recognizers priority).Pairwise fun a b => notAfter a b = true := by
    refine List.pairwise_of_forall_mem_list fun a ha b hb => ?_
    have hp := (mem_ofPriority.mp ha).2
    have hq := (mem_ofPriority.mp hb).2
    simp only [notAfter, decide_eq_true_eq]
    omega
  have hsub : (ofPriority recognizers priority).Sublist (recognizers.mergeSort notAfter) :=
    List.sublist_mergeSort notAfter_trans notAfter_total hequal List.filter_sublist
  have hfilter := hsub.filter (·.priority == priority)
  have hperm := (List.mergeSort_perm recognizers notAfter).filter (·.priority == priority)
  simp only [ofPriority, List.filter_filter, Bool.and_self] at hfilter
  exact (hfilter.eq_of_length hperm.length_eq.symm).symm

theorem eq_mergeSort_of_ofPriority_eq {sorted recognizers : List Recognizer} (h : InOrder sorted)
    (hequal : ∀ priority, ofPriority sorted priority = ofPriority recognizers priority) :
    sorted = recognizers.mergeSort notAfter :=
  eq_of_ofPriority_eq h (mergeSort_inOrder recognizers) fun priority => by
    rw [hequal, ofPriority_mergeSort]

theorem recognizers_register {registry : Registry} (h : InOrder registry.recognizers)
    (new : Recognizer) : (registry.register new).recognizers =
      (registry.recognizers ++ [new]).mergeSort notAfter :=
  eq_mergeSort_of_ofPriority_eq (insert_inOrder h new) (ofPriority_insert h new)

theorem ofList_append_singleton (added : List Recognizer) (new : Recognizer) :
    ofList (added ++ [new]) = (ofList added).register new :=
  List.foldl_append ..

theorem ofList_inOrder (added : List Recognizer) : InOrder (ofList added).recognizers := by
  induction added using List.reverseRecOn with
  | nil => exact List.Pairwise.nil
  | append_singleton added new ih =>
    rw [ofList_append_singleton]
    exact insert_inOrder ih new

theorem ofPriority_ofList (added : List Recognizer) (priority : Int) :
    ofPriority (ofList added).recognizers priority = ofPriority added priority := by
  induction added using List.reverseRecOn with
  | nil => rfl
  | append_singleton added new ih =>
    rw [ofList_append_singleton, register, ofPriority_insert (ofList_inOrder added)]
    unfold ofPriority at ih ⊢
    rw [List.filter_append, List.filter_append, ih]

/-- One stable sort at the end does what a sort at every registration does. -/
theorem recognizers_ofList (added : List Recognizer) :
    (ofList added).recognizers = added.mergeSort notAfter :=
  eq_mergeSort_of_ofPriority_eq (ofList_inOrder added) (ofPriority_ofList added)

/-- The recognizer finds the resource, while all those of a higher priority decline, and all those
of its own priority that came before it. -/
structure Decides (added : List Recognizer) (url : Url) (recognizer : Recognizer)
    (resource : Resource) : Prop where
  finds : recognizer.recognize? url = some resource
  higher : ∀ other ∈ added, recognizer.priority < other.priority → other.recognize? url = none
  earlier : ∃ front back, added = front ++ recognizer :: back ∧
    ∀ other ∈ front, other.priority = recognizer.priority → other.recognize? url = none

theorem findIn_eq_some_iff {registry : Registry} {url : Url} {recognizer : Recognizer}
    {resource : Resource} : registry.findIn? url = some (recognizer, resource) ↔
      recognizer.recognize? url = some resource ∧
        ∃ front back, registry.recognizers = front ++ recognizer :: back ∧
          ∀ other ∈ front, other.recognize? url = none := by
  rw [findIn?, List.findSome?_eq_some_iff]
  constructor
  · rintro ⟨front, found, back, hlist, hfound, hfront⟩
    obtain ⟨_, hresource, heq⟩ := Option.map_eq_some_iff.mp hfound
    obtain ⟨rfl, rfl⟩ := Prod.mk.inj heq
    exact ⟨hresource, front, back, hlist, by simpa using hfront⟩
  · rintro ⟨hresource, front, back, hlist, hfront⟩
    exact ⟨front, recognizer, back, hlist, by rw [hresource]; rfl, by simpa using hfront⟩

theorem findIn_iff_decides {registry : Registry} (h : InOrder registry.recognizers) {url : Url}
    {recognizer : Recognizer} {resource : Resource} :
    registry.findIn? url = some (recognizer, resource) ↔
      Decides registry.recognizers url recognizer resource := by
  rw [findIn_eq_some_iff]
  constructor
  · rintro ⟨hresource, front, back, hlist, hfront⟩
    refine ⟨hresource, fun other hmem hlt => ?_, front, back, hlist, fun o ho _ => hfront o ho⟩
    rw [hlist] at hmem h
    rcases List.mem_append.mp hmem with hmem | hmem
    · exact hfront other hmem
    · rcases List.mem_cons.mp hmem with rfl | hmem
      · omega
      · have hle := (List.pairwise_cons.mp (List.pairwise_append.mp h).2.1).1 other hmem
        omega
  · rintro ⟨hresource, hhigher, front, back, hlist, hearlier⟩
    refine ⟨hresource, front, back, hlist, fun other hmem => ?_⟩
    have hmem' : other ∈ registry.recognizers := by
      rw [hlist]
      exact List.mem_append_left _ hmem
    rw [hlist] at h
    have hle := (List.pairwise_append.mp h).2.2 other hmem recognizer List.mem_cons_self
    rcases lt_or_eq_of_le hle with hlt | heq
    · exact hhigher other hmem' hlt
    · exact hearlier other hmem heq.symm

theorem Decides.of_ofPriority_eq {xs ys : List Recognizer}
    (h : ∀ priority, ofPriority xs priority = ofPriority ys priority) {url : Url}
    {recognizer : Recognizer} {resource : Resource} (hd : Decides xs url recognizer resource) :
    Decides ys url recognizer resource := by
  obtain ⟨hresource, hhigher, front, back, rfl, hearlier⟩ := hd
  refine ⟨hresource, fun other hmem => hhigher other ?_, ?_⟩
  · exact mem_of_ofPriority_eq (fun priority => (h priority).symm) hmem
  · have hfilter := (h recognizer.priority).symm
    -- The first one of its priority to find a resource stands behind the same ones in both lists.
    simp only [ofPriority, List.filter_append, List.filter_cons_of_pos, beq_self_eq_true] at hfilter
    obtain ⟨front', rest, rfl, hfront, hrest⟩ := List.filter_eq_append_iff.mp hfilter
    obtain ⟨between, back', rfl, hbetween, _, _⟩ := List.filter_eq_cons_iff.mp hrest
    refine ⟨front' ++ between, back', by simp, fun other hmem hp => ?_⟩
    rcases List.mem_append.mp hmem with hmem | hmem
    · have hmem : other ∈ front'.filter (·.priority == recognizer.priority) :=
        List.mem_filter.mpr ⟨hmem, by simpa using hp⟩
      rw [hfront] at hmem
      exact hearlier other (List.mem_of_mem_filter hmem) hp
    · exact absurd hp (by simpa using hbetween other hmem)

theorem findIn_ofList_iff {added : List Recognizer} {url : Url} {recognizer : Recognizer}
    {resource : Resource} : (ofList added).findIn? url = some (recognizer, resource) ↔
      Decides added url recognizer resource := by
  rw [findIn_iff_decides (ofList_inOrder added)]
  exact ⟨Decides.of_ofPriority_eq (ofPriority_ofList added),
    Decides.of_ofPriority_eq fun priority => (ofPriority_ofList added priority).symm⟩

theorem findIn_ofList_eq_none_iff {added : List Recognizer} {url : Url} :
    (ofList added).findIn? url = none ↔ ∀ other ∈ added, other.recognize? url = none := by
  rw [findIn?, List.findSome?_eq_none_iff, recognizers_ofList]
  simp only [List.mem_mergeSort, Option.map_eq_none_iff]

/-- Each registration adds at the end and sorts by priority, so that recognizers stand by priority,
equal ones as they were registered, and a link goes to the first of them that finds a resource in
its URL. -/
theorem dispatch_by_priority_then_registration (added : List Recognizer) :
    (∀ new, (ofList (added ++ [new])).recognizers =
      ((ofList added).recognizers ++ [new]).mergeSort notAfter) ∧
      (ofList added).recognizers.Perm added ∧
      (ofList added).recognizers.Pairwise (fun a b => b.priority ≤ a.priority) ∧
      (∀ priority, (ofList added).recognizers.filter (·.priority == priority) =
        added.filter (·.priority == priority)) ∧
      ∀ link,
        (∀ recognizer resource, (ofList added).find? link = some (recognizer, resource) ↔
          ∃ url, Url.parse? link = some url ∧ Decides added url recognizer resource) ∧
        ((ofList added).find? link = none ↔
          ∀ url, Url.parse? link = some url → ∀ other ∈ added, other.recognize? url = none) ∧
        ((ofList added).classify? link = none ↔
          ∀ url, Url.parse? link = some url → ∀ other ∈ added, other.recognize? url = none) := by
  have hnone (link : String) : (ofList added).find? link = none ↔
      ∀ url, Url.parse? link = some url → ∀ other ∈ added, other.recognize? url = none := by
    rw [find?]
    cases Url.parse? link with
    | none => simp
    | some url => simpa using findIn_ofList_eq_none_iff
  refine ⟨fun new => ?_, ?_, ofList_inOrder added, ofPriority_ofList added,
    fun link => ⟨?_, hnone link, ?_⟩⟩
  · rw [ofList_append_singleton]
    exact recognizers_register (ofList_inOrder added) new
  · rw [recognizers_ofList]
    exact List.mergeSort_perm added notAfter
  · intro recognizer resource
    rw [find?, Option.bind_eq_some_iff]
    exact exists_congr fun url => and_congr_right fun _ => findIn_ofList_iff
  · rw [classify?, Option.map_eq_none_iff]
    exact hnone link

end Permalink.Registry
