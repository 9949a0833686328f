import BuildQueue.Store.Database

/-!
# The database seen through its commands

What a command that changes the database does to the lists, the tables and the sorted sets. That a
list or a set is dropped when it becomes empty shows in none of them.
-/

namespace BuildQueue.Database

variable (d : Database)

/-! ## Lists -/

@[simp] theorem lrange_putList (key : String) (items : List String) (q : String) :
    (d.putList key items).lrange q = if q = key then items else d.lrange q := by
  unfold putList lrange
  by_cases hi : items = []
  · by_cases hq : q = key
    · simp [hi, hq]
    · simp [hi, hq, Ne.symm hq, Std.TreeMap.getD_erase]
  · by_cases hq : q = key
    · simp [hi, hq]
    · simp [hi, hq, Ne.symm hq, Std.TreeMap.getD_insert]

theorem lrange_rpush (key item q : String) :
    (d.rpush key item).lrange q = if q = key then d.lrange key ++ [item] else d.lrange q :=
  d.lrange_putList _ _ _

theorem lrange_lrem (key item q : String) : (d.lrem key item).lrange q =
    if q = key then (d.lrange key).filter (· ≠ item) else d.lrange q :=
  d.lrange_putList _ _ _

/-! ## Tables -/

theorem hget_putHash (key : String) (fields : Std.TreeMap String String) (t j : String) :
    (d.putHash key fields).hget t j = if t = key then fields[j]? else d.hget t j := by
  unfold putHash hget hash
  by_cases he : fields.isEmpty = true
  · by_cases ht : t = key
    · simp [he, ht, Std.TreeMap.getElem?_of_isEmpty he]
    · simp [he, ht, Ne.symm ht, Std.TreeMap.getD_erase]
  · by_cases ht : t = key
    · simp [he, ht]
    · simp [he, ht, Ne.symm ht, Std.TreeMap.getD_insert]

theorem hget_hset (key field value t j : String) : (d.hset key field value).hget t j =
    if t = key ∧ j = field then some value else d.hget t j := by
  rw [hset, hget_putHash, Std.TreeMap.getElem?_insert]
  by_cases ht : t = key
  · by_cases hj : j = field
    · simp [ht, hj]
    · simp [ht, hj, Ne.symm hj, hget]
  · simp [ht]

theorem hget_hdel (key field t j : String) : (d.hdel key field).hget t j =
    if t = key ∧ j = field then none else d.hget t j := by
  rw [hdel, hget_putHash, Std.TreeMap.getElem?_erase]
  by_cases ht : t = key
  · by_cases hj : j = field
    · simp [ht, hj]
    · simp [ht, hj, Ne.symm hj, hget]
  · simp [ht]

/-! ## Sorted sets -/

theorem zscore_putSet (key : String) (members : Std.TreeMap String Int) (p j : String) :
    (d.putSet key members).zscore p j = if p = key then members[j]? else d.zscore p j := by
  unfold putSet zscore sortedSet
  by_cases he : members.isEmpty = true
  · by_cases hp : p = key
    · simp [he, hp, Std.TreeMap.getElem?_of_isEmpty he]
    · simp [he, hp, Ne.symm hp, Std.TreeMap.getD_erase]
  · by_cases hp : p = key
    · simp [he, hp]
    · simp [he, hp, Ne.symm hp, Std.TreeMap.getD_insert]

theorem zscore_zadd (key member : String) (score : Int) (p j : String) :
    (d.zadd key member score).zscore p j =
      if p = key ∧ j = member then some score else d.zscore p j := by
  rw [zadd, zscore_putSet, Std.TreeMap.getElem?_insert]
  by_cases hp : p = key
  · by_cases hj : j = member
    · simp [hp, hj]
    · simp [hp, hj, Ne.symm hj, zscore]
  · simp [hp]

theorem zscore_zrem (key member p j : String) : (d.zrem key member).2.zscore p j =
    if p = key ∧ j = member then none else d.zscore p j := by
  rw [zrem, zscore_putSet, Std.TreeMap.getElem?_erase]
  by_cases hp : p = key
  · by_cases hj : j = member
    · simp [hp, hj]
    · simp [hp, hj, Ne.symm hj, zscore]
  · simp [hp]

end BuildQueue.Database
