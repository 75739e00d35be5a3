import TagDispatch.Tag

/-!
# Entries of a table

The entries of a table are kept in the order in which their tags were first registered. Registering
a tag again replaces its handler and keeps its place.
-/

namespace TagDispatch

/-- Handlers by tag, in the order of the first registration of each tag. -/
structure Entries (T H : Type) where
  toList : List (T × H) := []

namespace Entries

variable {T H : Type} [DecidableEq T]

/-- Replaces the handler in the first pair with the tag, or appends a pair. -/
def insertInto (t : T) (h : H) : List (T × H) → List (T × H)
  | [] => [(t, h)]
  | (t', h') :: rest => if t' = t then (t', h) :: rest else (t', h') :: insertInto t h rest

/-- Registers a handler for a tag. -/
def insert (es : Entries T H) (t : T) (h : H) : Entries T H := ⟨insertInto t h es.toList⟩

/-- Whether the tag has an entry. -/
def contains (es : Entries T H) (t : T) : Bool := es.toList.any fun entry => entry.1 = t

/-- The handler of the tag, if it has an entry. -/
def find? (es : Entries T H) (t : T) : Option H :=
  (es.toList.find? fun entry => entry.1 = t).map (·.2)

omit [DecidableEq T] in
/-- The tags that have an entry, in their order. -/
def tags (es : Entries T H) : List T := es.toList.map (·.1)

omit [DecidableEq T] in
/-- The names of the tags that have an entry, in their order. -/
def names [Tag T] (es : Entries T H) : List String := es.tags.map Tag.name

/-! ## Registering and looking up -/

/-- A tag has an entry exactly if a handler is found for it. -/
theorem isSome_find? (es : Entries T H) (t : T) : (es.find? t).isSome = es.contains t := by
  rw [Bool.eq_iff_iff]
  simp [find?, contains, List.find?_isSome, List.any_eq_true]

omit [DecidableEq T] in
@[simp]
theorem tags_mk (pairs : List (T × H)) : (Entries.mk pairs).tags = pairs.map (·.1) := rfl

/-- The registered tag finds the new handler, and every other tag what it found before. -/
theorem find?_insert (es : Entries T H) (t t' : T) (h : H) :
    (es.insert t h).find? t' = if t = t' then some h else es.find? t' := by
  simp only [find?, insert]
  induction es.toList with
  | nil => by_cases ht : t = t' <;> simp [insertInto, ht]
  | cons entry rest ih =>
    obtain ⟨u, k⟩ := entry
    by_cases hu : u = t
    · subst hu
      by_cases ht : u = t' <;> simp [insertInto, ht]
    · by_cases ht : u = t'
      · subst ht
        have hne : t ≠ u := fun e => hu e.symm
        simp [insertInto, hu, hne]
      · simpa [insertInto, hu, ht] using ih

/-- A tag that has an entry keeps its place, and a new one goes to the end. -/
theorem tags_insert (es : Entries T H) (t : T) (h : H) :
    (es.insert t h).tags = if t ∈ es.tags then es.tags else es.tags ++ [t] := by
  obtain ⟨pairs⟩ := es
  simp only [insert, tags_mk]
  induction pairs with
  | nil => simp [insertInto]
  | cons entry rest ih =>
    obtain ⟨u, k⟩ := entry
    by_cases hu : u = t
    · simp [insertInto, hu]
    · have hne : t ≠ u := fun e => hu e.symm
      by_cases hmem : t ∈ rest.map (·.1)
      · simpa [insertInto, hu, hne, hmem] using ih
      · simpa [insertInto, hu, hne, hmem] using ih

end Entries

/-- A table is shown by the names of its tags and whether it has a fallback. -/
def tableDump (kind : String) (names : List String) (hasFallback : Bool) : Dump :=
  .record kind [("tags", .list (names.map dump)), ("fallback", .bool hasFallback)] false

end TagDispatch
