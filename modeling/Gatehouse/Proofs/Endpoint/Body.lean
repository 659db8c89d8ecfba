import Gatehouse.Endpoint.Body

/- A body is read exactly when the client stayed and the pieces together are something within the limit; it is then
   all of the pieces together. -/
namespace Gatehouse.Body

def joinedTo (body : ByteArray) (chunks : List ByteArray) : ByteArray := chunks.foldl (· ++ ·) body

def joined (chunks : List ByteArray) : ByteArray := joinedTo ByteArray.empty chunks

theorem joined_grows (body : ByteArray) (chunks : List ByteArray) : body.size ≤ (joinedTo body chunks).size := by
  induction chunks generalizing body with
  | nil => exact Nat.le_refl _
  | cons chunk rest ih =>
    have step : body.size ≤ (body ++ chunk).size := by
      rw [ByteArray.size_append]
      exact Nat.le_add_right _ _
    exact Nat.le_trans step (ih (body ++ chunk))

theorem gather_ok (limit : Nat) (body : ByteArray) (chunks : List ByteArray) (result : ByteArray)
    (within : body.size ≤ limit) :
    gather limit body chunks = .ok result ↔ joinedTo body chunks = result ∧ result.size ≤ limit := by
  induction chunks generalizing body with
  | nil =>
    simp only [gather, joinedTo, List.foldl_nil, Except.ok.injEq]
    exact ⟨fun same => ⟨same, same ▸ within⟩, fun both => both.1⟩
  | cons chunk rest ih =>
    rw [gather]
    by_cases large : limit < (body ++ chunk).size
    · rw [if_pos large]
      constructor
      · rintro ⟨⟩
      · rintro ⟨same, small⟩
        have grown := joined_grows (body ++ chunk) rest
        have whole : joinedTo (body ++ chunk) rest = result := same
        rw [whole] at grown
        omega
    · rw [if_neg large]
      exact ih (body ++ chunk) (Nat.le_of_not_lt large)

theorem is_empty_false (body : ByteArray) : body.isEmpty = false ↔ 0 < body.size := by
  simp [ByteArray.isEmpty, Nat.pos_iff_ne_zero]

theorem read_ok (limit : Nat) (delivery : Delivery) (body : ByteArray) : read limit delivery = .ok body ↔
    delivery.disconnected = false ∧ joined delivery.chunks = body ∧ 0 < body.size ∧ body.size ≤ limit := by
  have gathered (result : ByteArray) := gather_ok limit ByteArray.empty delivery.chunks result (Nat.zero_le _)
  constructor
  · intro accepted
    unfold read at accepted
    split at accepted
    · cases accepted
    · rename_i whole outcome
      split at accepted
      · cases accepted
      · rename_i stayed
        split at accepted
        · cases accepted
        · rename_i filled
          cases accepted
          obtain ⟨same, small⟩ := (gathered body).mp outcome
          exact ⟨by simpa using stayed, same, (is_empty_false body).mp (by simpa using filled), small⟩
  · rintro ⟨stayed, rfl, something, small⟩
    have filled := (is_empty_false _).mpr something
    rw [read, (gathered (joined delivery.chunks)).mpr ⟨rfl, small⟩]
    simp [stayed, filled]

end Gatehouse.Body
