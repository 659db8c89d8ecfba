import Gatehouse.Proofs.Json.RoundTrip
import Mathlib.Data.List.Induction

/- Entries by key. Merging leaves every key once, in its first place and with its last value, and changes nothing
   the second time; so does collapsing a value, which merges the members of every object within it. -/
namespace Gatehouse

def keysOf {α : Type} (entries : List (String × α)) : List String := entries.map Prod.fst

section Entries

variable {α : Type}

@[simp] theorem keys_of_cons (entry : String × α) (rest : List (String × α)) :
    keysOf (entry :: rest) = entry.1 :: keysOf rest := rfl

@[simp] theorem keys_of_append (left right : List (String × α)) :
    keysOf (left ++ right) = keysOf left ++ keysOf right := List.map_append

theorem put_absent (entries : List (String × α)) (key : String) (value : α) (absent : key ∉ keysOf entries) :
    put entries key value = entries ++ [(key, value)] := by
  induction entries with
  | nil => rfl
  | cons entry rest ih =>
    obtain ⟨other, old⟩ := entry
    simp only [keys_of_cons, List.mem_cons, not_or] at absent
    rw [put, if_neg (by simpa using Ne.symm absent.1), ih absent.2]
    rfl

theorem put_keys (entries : List (String × α)) (key : String) (value : α) :
    keysOf (put entries key value) = if key ∈ keysOf entries then keysOf entries else keysOf entries ++ [key] := by
  induction entries with
  | nil => rfl
  | cons entry rest ih =>
    obtain ⟨other, old⟩ := entry
    by_cases same : other = key
    · subst same
      simp [put]
    · rw [put, if_neg (by simpa using same), keys_of_cons, ih]
      by_cases found : key ∈ keysOf rest
      · simp [found]
      · simp [found, Ne.symm same]

theorem put_distinct (entries : List (String × α)) (key : String) (value : α) (distinct : (keysOf entries).Nodup) :
    (keysOf (put entries key value)).Nodup := by
  rw [put_keys]
  split
  · exact distinct
  · rename_i absent
    simpa [List.nodup_append] using ⟨distinct, fun other member same => absent (same ▸ member)⟩

theorem put_member (entries : List (String × α)) (key : String) (value : α) :
    ∀ entry ∈ put entries key value, entry = (key, value) ∨ entry ∈ entries := by
  induction entries with
  | nil => simp [put]
  | cons first rest ih =>
    obtain ⟨other, old⟩ := first
    intro entry member
    rw [put] at member
    split at member
    · rcases List.mem_cons.mp member with rfl | later
      · exact .inl rfl
      · exact .inr (List.mem_cons_of_mem _ later)
    · rcases List.mem_cons.mp member with rfl | later
      · exact .inr List.mem_cons_self
      · exact (ih entry later).imp_right (List.mem_cons_of_mem _)

theorem put_others (entries : List (String × α)) (key : String) (value : α) :
    (put entries key value).filter (fun entry => entry.1 != key) = entries.filter fun entry => entry.1 != key := by
  induction entries with
  | nil => simp [put]
  | cons entry rest ih =>
    obtain ⟨other, old⟩ := entry
    by_cases same : other = key
    · subst same
      simp [put]
    · rw [put, if_neg (by simpa using same), List.filter_cons, List.filter_cons, ih]

theorem merged_append (entries : List (String × α)) (key : String) (value : α) :
    merged (entries ++ [(key, value)]) = put (merged entries) key value := by
  simp [merged]

theorem merged_distinct (entries : List (String × α)) : (keysOf (merged entries)).Nodup := by
  induction entries using List.reverseRecOn with
  | nil => exact List.nodup_nil
  | append_singleton entries entry ih =>
    rw [merged_append]
    exact put_distinct _ _ _ ih

theorem merged_member (entries : List (String × α)) : ∀ entry ∈ merged entries, entry ∈ entries := by
  induction entries using List.reverseRecOn with
  | nil => exact fun _ member => member
  | append_singleton entries last ih =>
    intro entry member
    rw [merged_append] at member
    rcases put_member _ _ _ entry member with rfl | earlier
    · simp
    · exact List.mem_append_left _ (ih entry earlier)

theorem merged_fixed (entries : List (String × α)) (distinct : (keysOf entries).Nodup) : merged entries = entries := by
  induction entries using List.reverseRecOn with
  | nil => rfl
  | append_singleton entries last ih =>
    simp only [keys_of_append, List.nodup_append] at distinct
    have absent : last.1 ∉ keysOf entries := fun member => distinct.2.2 last.1 member last.1 (by simp) rfl
    rw [merged_append, ih distinct.1, put_absent _ _ _ absent]

theorem merged_twice (entries : List (String × α)) : merged (merged entries) = merged entries :=
  merged_fixed _ (merged_distinct entries)

/- The last entry of a key. -/

theorem last_of_append (left right : List (String × α)) (key : String) :
    lastOf (left ++ right) key = (lastOf right key).or (lastOf left key) := by
  induction left with
  | nil => simp [lastOf]
  | cons entry rest ih =>
    obtain ⟨other, value⟩ := entry
    rw [List.cons_append, lastOf, ih, lastOf]
    cases lastOf right key with
    | some later => rfl
    | none => rfl

theorem last_of_absent (entries : List (String × α)) (key : String) (absent : key ∉ keysOf entries) :
    lastOf entries key = none := by
  induction entries with
  | nil => rfl
  | cons entry rest ih =>
    obtain ⟨other, value⟩ := entry
    simp only [keys_of_cons, List.mem_cons, not_or] at absent
    rw [lastOf, ih absent.2]
    simpa using Ne.symm absent.1

theorem last_of_none (entries : List (String × α)) (key : String) :
    lastOf entries key = none ↔ key ∉ keysOf entries := by
  refine ⟨?_, last_of_absent entries key⟩
  induction entries with
  | nil => simp [keysOf]
  | cons entry rest ih =>
    obtain ⟨other, value⟩ := entry
    intro missing
    rw [lastOf] at missing
    cases later : lastOf rest key with
    | some found => simp [later] at missing
    | none =>
      have different : other ≠ key := by simpa [later] using missing
      simpa [Ne.symm different] using ih later

theorem last_of_member (entries : List (String × α)) (key : String) (value : α)
    (found : lastOf entries key = some value) : (key, value) ∈ entries := by
  induction entries with
  | nil => cases found
  | cons entry rest ih =>
    obtain ⟨other, old⟩ := entry
    rw [lastOf] at found
    split at found
    · rename_i later located
      cases found
      exact List.mem_cons_of_mem _ (ih located)
    · split at found
      · rename_i same
        cases found
        rw [eq_of_beq same]
        exact List.mem_cons_self
      · cases found

theorem last_of_iff (entries : List (String × α)) (key : String) (value : α) (distinct : (keysOf entries).Nodup) :
    lastOf entries key = some value ↔ (key, value) ∈ entries := by
  refine ⟨last_of_member entries key value, fun member => ?_⟩
  induction entries with
  | nil => cases member
  | cons entry rest ih =>
    obtain ⟨other, old⟩ := entry
    simp only [keys_of_cons, List.nodup_cons] at distinct
    rw [lastOf]
    rcases List.mem_cons.mp member with same | later
    · cases same
      simp [last_of_absent rest key distinct.1]
    · rw [ih distinct.2 later]

theorem last_of_filter (entries : List (String × α)) (keep : String × α → Bool) (key : String)
    (kept : ∀ value, keep (key, value) = true) : lastOf (entries.filter keep) key = lastOf entries key := by
  induction entries with
  | nil => rfl
  | cons entry rest ih =>
    obtain ⟨other, value⟩ := entry
    by_cases stays : keep (other, value) = true
    · rw [List.filter_cons_of_pos stays, lastOf, lastOf, ih]
    · have foreign : other ≠ key := fun same => stays (same ▸ kept value)
      rw [List.filter_cons_of_neg stays, ih, lastOf]
      cases lastOf rest key <;> simp [foreign]

theorem last_of_put (entries : List (String × α)) (key other : String) (value : α) (distinct : (keysOf entries).Nodup) :
    lastOf (put entries key value) other = if key = other then some value else lastOf entries other := by
  induction entries with
  | nil => simp [put, lastOf]
  | cons entry rest ih =>
    obtain ⟨place, old⟩ := entry
    simp only [keys_of_cons, List.nodup_cons] at distinct
    have later := last_of_absent rest place distinct.1
    by_cases same : place = key
    · subst same
      rw [put, if_pos (beq_self_eq_true place), lastOf, lastOf]
      by_cases asked : place = other
      · subst asked
        simp [later]
      · simp [asked]
    · rw [put, if_neg (by simpa using same), lastOf, ih distinct.2, lastOf]
      by_cases asked : key = other
      · subst asked
        simp
      · simp [asked]

theorem last_of_merged (entries : List (String × α)) (key : String) :
    lastOf (merged entries) key = lastOf entries key := by
  induction entries using List.reverseRecOn with
  | nil => rfl
  | append_singleton entries last ih =>
    rw [merged_append, last_of_put _ _ _ _ (merged_distinct entries), last_of_append, ih]
    by_cases same : last.1 = key <;> simp [lastOf, same]

-- The value of the last entry with a key, found from the end.
theorem last_of_filtered (entries : List (String × α)) (key : String) :
    lastOf entries key = ((entries.filter fun entry => entry.1 == key).getLast?).map Prod.snd := by
  induction entries using List.reverseRecOn with
  | nil => rfl
  | append_singleton entries last ih =>
    rw [last_of_append, List.filter_append, ih]
    by_cases same : last.1 = key <;> simp [lastOf, same]

theorem put_mapped {β : Type} (f : α → β) (entries : List (String × α)) (key : String) (value : α) :
    (put entries key value).map (fun entry => (entry.1, f entry.2)) =
      put (entries.map fun entry => (entry.1, f entry.2)) key (f value) := by
  induction entries with
  | nil => rfl
  | cons entry rest ih =>
    by_cases same : entry.1 = key <;> simp [put, same, ih]

theorem last_of_mapped {β : Type} (f : α → β) (entries : List (String × α)) (key : String) :
    lastOf (entries.map fun entry => (entry.1, f entry.2)) key = (lastOf entries key).map f := by
  rw [last_of_filtered, last_of_filtered, List.filter_map, List.getLast?_map]
  simp [Function.comp_def]

-- An entry in front of others, if there is a value for it.
def entering (key : String) (value : Option α) (rest : List (String × α)) : List (String × α) :=
  match value with
  | some value => (key, value) :: rest
  | none => rest

theorem last_of_entering (key : String) (value : Option α) (rest : List (String × α)) (absent : key ∉ keysOf rest)
    (other : String) : lastOf (entering key value rest) other = if key = other then value else lastOf rest other := by
  have unfound := last_of_absent rest key absent
  by_cases same : key = other
  · subst same
    cases value <;> simp [entering, lastOf, unfound]
  · cases value with
    | none => simp [entering, same]
    | some value => cases later : lastOf rest other <;> simp [entering, lastOf, same, later]

theorem keys_of_entering (key : String) (value : Option α) (rest : List (String × α)) (keys : List String)
    (among : (keysOf rest).Sublist keys) : (keysOf (entering key value rest)).Sublist (key :: keys) := by
  cases value with
  | none => exact among.cons key
  | some value => exact among.cons_cons key

end Entries

namespace Json

theorem collapsed_members_entry (members : Members) :
    ∀ entry ∈ collapsedMembers members, ∃ json, (entry.1, json) ∈ members ∧ entry.2 = json.collapsed := by
  induction members with
  | nil => simp [collapsedMembers]
  | cons member rest ih =>
    obtain ⟨key, json⟩ := member
    intro entry member
    rcases List.mem_cons.mp member with rfl | later
    · exact ⟨json, List.mem_cons_self, rfl⟩
    · obtain ⟨source, located, same⟩ := ih entry later
      exact ⟨source, List.mem_cons_of_mem _ located, same⟩

theorem collapsed_items_entry (items : List Json) : collapsedItems items = items.map collapsed := by
  induction items with
  | nil => rfl
  | cons item rest ih => rw [collapsedItems, ih, List.map_cons]

theorem collapsed_members_fixed (members : Members) (every : ∀ entry ∈ members, entry.2.collapsed = entry.2) :
    collapsedMembers members = members := by
  induction members with
  | nil => rfl
  | cons member rest ih =>
    obtain ⟨key, json⟩ := member
    rw [collapsedMembers, every _ List.mem_cons_self, ih fun entry later => every entry (List.mem_cons_of_mem _ later)]

mutual

theorem collapsed_twice (json : Json) : json.collapsed.collapsed = json.collapsed := by
  cases json with
  | array items => rw [collapsed, collapsed, collapsed_items_twice items]
  | object members =>
    have fixed : collapsedMembers (merged (collapsedMembers members)) = merged (collapsedMembers members) :=
      collapsed_members_fixed _ fun entry member => collapsed_members_twice members entry (merged_member _ entry member)
    rw [collapsed, collapsed, fixed, merged_twice]
  | null => rfl
  | bool truth => rfl
  | int number => rfl
  | float number => rfl
  | string text => rfl

theorem collapsed_items_twice (items : List Json) : collapsedItems (collapsedItems items) = collapsedItems items := by
  cases items with
  | nil => rfl
  | cons item rest => rw [collapsedItems, collapsedItems, collapsed_twice item, collapsed_items_twice rest]

theorem collapsed_members_twice (members : Members) :
    ∀ entry ∈ collapsedMembers members, entry.2.collapsed = entry.2 := by
  cases members with
  | nil => simp [collapsedMembers]
  | cons member rest =>
    obtain ⟨key, json⟩ := member
    intro entry member
    rcases List.mem_cons.mp member with rfl | later
    · exact collapsed_twice json
    · exact collapsed_members_twice rest entry later

end

-- In a collapsed object every key stands once, and its values are collapsed.
theorem collapsed_object (members : Members) (settled : (Json.object members).collapsed = .object members) :
    (keysOf members).Nodup ∧ ∀ entry ∈ members, entry.2.collapsed = entry.2 := by
  rw [collapsed, object.injEq] at settled
  rw [← settled]
  exact ⟨merged_distinct _, fun entry member => collapsed_members_twice members entry (merged_member _ entry member)⟩

theorem fits_more (room more : Nat) (json : Json) (fits : Fits room json) (wider : room ≤ more) : Fits more json := by
  induction fits generalizing more with
  | null => exact .null _
  | bool room value => exact .bool _ _
  | int room value short => exact .int _ _ short
  | float room value => exact .float _ _
  | string room text => exact .string _ _
  | noItems room => exact .noItems _
  | noMembers room => exact .noMembers _
  | array room items every ih =>
    obtain ⟨more, rfl⟩ : ∃ less, more = less + 1 := ⟨more - 1, by omega⟩
    exact .array more items fun item member => ih item member more (by omega)
  | object room members every ih =>
    obtain ⟨more, rfl⟩ : ∃ less, more = less + 1 := ⟨more - 1, by omega⟩
    exact .object more members fun entry member => ih entry member more (by omega)

theorem collapsed_fits (room : Nat) (json : Json) (fits : Fits room json) : Fits room json.collapsed := by
  induction fits with
  | array room items every ih =>
    refine .array room _ fun item member => ?_
    rw [collapsed_items_entry] at member
    obtain ⟨source, located, rfl⟩ := List.mem_map.mp member
    exact ih source located
  | object room members every ih =>
    refine .object room _ fun entry member => ?_
    obtain ⟨source, located, same⟩ := collapsed_members_entry members entry (merged_member _ entry member)
    rw [same]
    exact ih _ located
  | null room => exact .null room
  | bool room value => exact .bool room value
  | int room value short => exact .int room value short
  | float room value => exact .float room value
  | string room text => exact .string room text
  | noItems room => exact .noItems room
  | noMembers room => exact .noMembers room

theorem finite_items (items : List Json) : finiteItems items = true ↔ ∀ item ∈ items, item.finite = true := by
  induction items with
  | nil => simp [finiteItems]
  | cons item rest ih => simp [finiteItems, ih]

theorem finite_members (members : Members) :
    finiteMembers members = true ↔ ∀ entry ∈ members, entry.2.finite = true := by
  induction members with
  | nil => simp [finiteMembers]
  | cons member rest ih =>
    obtain ⟨key, json⟩ := member
    simp [finiteMembers, ih]

mutual

theorem collapsed_finite (json : Json) (whole : json.finite = true) : json.collapsed.finite = true := by
  cases json with
  | array items => exact (finite_items _).mpr (collapsed_items_finite items whole)
  | object members =>
    refine (finite_members _).mpr fun entry member => ?_
    exact collapsed_members_finite members whole entry (merged_member _ entry member)
  | _ => exact whole

theorem collapsed_items_finite (items : List Json) (whole : finiteItems items = true) :
    ∀ item ∈ collapsedItems items, item.finite = true := by
  cases items with
  | nil => simp [collapsedItems]
  | cons item rest =>
    obtain ⟨first, later⟩ := Bool.and_eq_true_iff.mp whole
    exact List.forall_mem_cons.mpr ⟨collapsed_finite item first, collapsed_items_finite rest later⟩

theorem collapsed_members_finite (members : Members) (whole : finiteMembers members = true) :
    ∀ entry ∈ collapsedMembers members, entry.2.finite = true := by
  cases members with
  | nil => simp [collapsedMembers]
  | cons member rest =>
    obtain ⟨key, json⟩ := member
    obtain ⟨first, later⟩ := Bool.and_eq_true_iff.mp whole
    exact List.forall_mem_cons.mpr ⟨collapsed_finite json first, collapsed_members_finite rest later⟩

end

-- Collapsing a value collapses what stands in it under a key.
theorem last_of_collapsed (members : Members) (key : String) :
    lastOf (collapsedMembers members) key = (lastOf members key).map collapsed := by
  induction members with
  | nil => rfl
  | cons member rest ih =>
    obtain ⟨other, json⟩ := member
    rw [collapsedMembers, lastOf, lastOf, ih]
    cases lastOf rest key with
    | some later => rfl
    | none => by_cases same : other = key <;> simp [same]

theorem get_collapsed (json : Json) (key : String) : json.collapsed.get? key = (json.get? key).map collapsed := by
  cases json with
  | object members => rw [collapsed, get?, get?, last_of_merged, last_of_collapsed]
  | _ => rfl

theorem collapsed_null (json : Json) : json.collapsed = .null ↔ json = .null := by
  cases json <;> simp [collapsed]

/- A value nests no deeper than its text is long. -/

theorem item_text_within (style : Style) (items : List Json) :
    ∀ item ∈ items, (write style item).length ≤ (writeItems style items).length := by
  induction items with
  | nil => simp
  | cons first rest ih =>
    intro item member
    cases rest with
    | nil => simp_all [writeItems]
    | cons next later =>
      rw [writeItems, List.length_append, List.length_cons]
      rcases List.mem_cons.mp member with rfl | later
      · omega
      · have inside := ih item later
        omega

theorem member_text_within (style : Style) (members : Members) :
    ∀ entry ∈ members, (write style entry.2).length ≤ (writeMembers style members).length := by
  induction members with
  | nil => simp
  | cons first rest ih =>
    obtain ⟨key, json⟩ := first
    intro entry member
    cases rest with
    | nil =>
      obtain rfl := List.mem_singleton.mp member
      simp only [writeMembers, List.length_append, List.length_cons]
      omega
    | cons next later =>
      simp only [writeMembers, List.length_append, List.length_cons]
      rcases List.mem_cons.mp member with rfl | later
      · dsimp only
        omega
      · have inside := ih entry later
        omega

theorem fits_text (style : Style) (room : Nat) (json : Json) (fits : Fits room json) :
    Fits (write style json).length json := by
  induction fits with
  | array room items every ih =>
    have long : (write style (.array items)).length = (writeItems style items).length + 1 + 1 := by simp [write]
    rw [long, fits_array]
    exact fun item member => fits_more _ _ _ (ih item member) (Nat.le_succ_of_le (item_text_within style items item member))
  | object room members every ih =>
    have long : (write style (.object members)).length = (writeMembers style members).length + 1 + 1 := by simp [write]
    rw [long, fits_object]
    exact fun entry member =>
      fits_more _ _ _ (ih entry member) (Nat.le_succ_of_le (member_text_within style members entry member))
  | null room => exact .null _
  | bool room value => exact .bool _ value
  | int room value short => exact .int _ value short
  | float room value => exact .float _ value
  | string room text => exact .string _ text
  | noItems room => exact .noItems _
  | noMembers room => exact .noMembers _

/- Values in which no key is repeated at any depth are collapsed as they stand. -/

mutual

def unrepeated : Json → Bool
  | .array items => unrepeatedItems items
  | .object members => decide (keysOf members).Nodup && unrepeatedMembers members
  | _ => true

def unrepeatedItems : List Json → Bool
  | [] => true
  | item :: rest => item.unrepeated && unrepeatedItems rest

def unrepeatedMembers : Members → Bool
  | [] => true
  | (_, value) :: rest => value.unrepeated && unrepeatedMembers rest

end

mutual

theorem collapsed_unrepeated (json : Json) (once : json.unrepeated = true) : json.collapsed = json := by
  cases json with
  | array items => rw [collapsed, collapsed_items_unrepeated items once]
  | object members =>
    obtain ⟨distinct, every⟩ := Bool.and_eq_true_iff.mp once
    rw [collapsed, collapsed_members_unrepeated members every, merged_fixed members (of_decide_eq_true distinct)]
  | null => rfl
  | bool truth => rfl
  | int number => rfl
  | float number => rfl
  | string text => rfl

theorem collapsed_items_unrepeated (items : List Json) (once : unrepeatedItems items = true) :
    collapsedItems items = items := by
  cases items with
  | nil => rfl
  | cons item rest =>
    obtain ⟨first, later⟩ := Bool.and_eq_true_iff.mp once
    rw [collapsedItems, collapsed_unrepeated item first, collapsed_items_unrepeated rest later]

theorem collapsed_members_unrepeated (members : Members) (once : unrepeatedMembers members = true) :
    collapsedMembers members = members := by
  cases members with
  | nil => rfl
  | cons member rest =>
    obtain ⟨key, json⟩ := member
    obtain ⟨first, later⟩ := Bool.and_eq_true_iff.mp once
    rw [collapsedMembers, collapsed_unrepeated json first, collapsed_members_unrepeated rest later]

end

end Json
end Gatehouse
