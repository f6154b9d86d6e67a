import VirtualDisplay.World.Delivery

/-! What a task hands over. Turn by turn it receives an event, is moved ahead, or stops, and each of these
accounts for the newest events that it has yet to hand over. -/

namespace VirtualDisplay

/-- The last elements of a list, at most so many. -/
def newest {α : Type} (n : Nat) (xs : List α) : List α := xs.drop (xs.length - n)

theorem getLast?_newest {α : Type} {n : Nat} (h : 0 < n) (xs : List α) :
    (newest n xs).getLast? = xs.getLast? := by
  rw [newest, List.getLast?_drop]
  split
  · have hnil : xs = [] := List.length_eq_zero_iff.1 (by omega)
    rw [hnil]
    rfl
  · rfl

theorem newest_of_length_le {α : Type} {n : Nat} {xs : List α} (h : xs.length ≤ n) :
    newest n xs = xs := by
  rw [newest, Nat.sub_eq_zero_of_le h, List.drop_zero]

/-- The newest elements after some begin where those of the whole list do, or after these. -/
theorem newest_drop {α : Type} (n k : Nat) (xs : List α) :
    newest n (xs.drop k) = xs.drop (max k (xs.length - n)) := by
  rw [newest, List.drop_drop, List.length_drop]
  congr 1
  omega

namespace Loopback

variable {d : Loopback} {sending : Bool} {cursor next missed : Nat} {state : DriverState}

theorem newest_of_event (h : d.receive sending cursor = (.event state, next)) :
    newest d.capacity (d.events.drop cursor) = state :: newest d.capacity (d.events.drop next) := by
  obtain ⟨hkept, hstate, rfl⟩ := receive_event h
  obtain ⟨hlt, rfl⟩ := List.getElem?_eq_some_iff.1 hstate
  rw [newest_drop, newest_drop, Nat.max_eq_left hkept, Nat.max_eq_left (Nat.le_succ_of_le hkept),
    List.drop_eq_getElem_cons hlt]

theorem newest_of_lagged (h : d.receive sending cursor = (.lagged missed, next)) :
    newest d.capacity (d.events.drop cursor) = newest d.capacity (d.events.drop next) := by
  obtain ⟨hlost, rfl⟩ := receive_lagged h
  rw [newest_drop, newest_drop, Nat.max_eq_right (Nat.le_of_lt hlost), Nat.max_self]

theorem newest_of_length_le_cursor (h : d.events.length ≤ cursor) :
    newest d.capacity (d.events.drop cursor) = [] := by
  rw [List.drop_eq_nil_of_le h, newest, List.drop_nil]

/-- A receiver waits or stops at the end only, and stops if nobody is left to send. -/
theorem receive_end {r : Receipt} (h : d.receive sending cursor = (r, next))
    (hr : r = .empty ∨ r = .closed) : d.events.length ≤ cursor ∧ (r = .empty ↔ sending = true) := by
  simp only [receive] at h
  split at h
  · cases h
    simp at hr
  · split at h
    · cases h
      simp at hr
    · next hnone =>
      refine ⟨List.getElem?_eq_none_iff.1 hnone, ?_⟩
      cases sending <;> cases h <;> simp

end Loopback

namespace Subscription

variable {d : Loopback} {sending : Bool} {s : Subscription}

theorem run_of_cancelled (hc : s.cancelled = true) : s.run d sending = { s with ended := true } := by
  rw [run, if_pos hc]

/-- A task hands over the newest events after its cursor and is then behind none. -/
theorem run_of_live (hc : s.cancelled = false) : s.run d sending =
    { s with
      cursor := max s.cursor d.events.length
      handed := s.handed ++ newest d.capacity (d.events.drop s.cursor)
      ended := s.ended || !sending } := by
  fun_induction run d sending s with
  | case1 s hcancelled => simp [hc] at hcancelled
  | case2 s _ state cursor hr ih =>
    have hmax : max cursor d.events.length = max s.cursor d.events.length := by
      obtain ⟨-, hstate, rfl⟩ := Loopback.receive_event hr
      have := (List.getElem?_eq_some_iff.1 hstate).1
      omega
    rw [ih hc, Loopback.newest_of_event hr, hmax, List.append_assoc]
    rfl
  | case3 s _ missed cursor hr ih =>
    have hmax : max cursor d.events.length = max s.cursor d.events.length := by
      have := Loopback.receive_lagged hr
      omega
    rw [ih hc, Loopback.newest_of_lagged hr, hmax]
  | case4 s _ cursor hr =>
    obtain ⟨hend, hsending⟩ := Loopback.receive_end hr (Or.inl rfl)
    rw [Loopback.newest_of_length_le_cursor hend, Nat.max_eq_left hend, hsending.1 rfl]
    simp
  | case5 s _ cursor hr =>
    obtain ⟨hend, hsending⟩ := Loopback.receive_end hr (Or.inr rfl)
    have hclosed : sending = false := by simpa using hsending
    rw [Loopback.newest_of_length_le_cursor hend, Nat.max_eq_left hend, hclosed]
    simp

theorem run_frame (d : Loopback) (sending : Bool) (s : Subscription) : s.run d sending =
    { s with
      cursor := (s.run d sending).cursor
      handed := s.handed ++ (s.run d sending).handed.drop s.handed.length
      ended := (s.run d sending).ended } := by
  cases hc : s.cancelled with
  | true => simp [run_of_cancelled hc, hc]
  | false => simp [run_of_live hc, hc]

end Subscription

namespace World

theorem settled_frame (w : World) (f : Subscription) : w.settled f =
    { f with
      cursor := (w.settled f).cursor
      handed := f.handed ++ w.pending f
      ended := (w.settled f).ended } := by
  unfold pending settled
  split
  · split
    · simp
    · exact f.run_frame _ _
  · simp

theorem pending_of_cancelled (w : World) {f : Subscription} (hc : f.cancelled = true) :
    w.pending f = [] := by
  unfold pending settled
  split
  · split
    · exact List.drop_length
    · rw [Subscription.run_of_cancelled hc]
      exact List.drop_length
  · exact List.drop_length

end World
end VirtualDisplay
