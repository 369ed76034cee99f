/-!
# Keyed lists

Tables keyed by strings keep their keys in the order they first came: storing under a key that is
already present replaces its value in place, and a new key goes last. This is how the tables of
translations, parameters and host functions behave when a key is given twice.
-/

namespace Lingo

/-- Stores `v` under `k`, replacing the value of a key already present in place. -/
def upsert {α : Type} (entries : List (String × α)) (k : String) (v : α) : List (String × α) :=
  if entries.any (·.1 == k) then entries.map fun e => if e.1 == k then (k, v) else e
  else entries ++ [(k, v)]

/-- Keyed entries with a key given twice kept at its first position with its last value. -/
def keyed {α : Type} (entries : List (String × α)) : List (String × α) :=
  entries.foldl (fun acc (k, v) => upsert acc k v) []

end Lingo
