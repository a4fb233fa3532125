import LaunchSupervisor.IconCache.Basic
import Mathlib.Logic.ExistsUnique

/-!
**Lookups go by names.** The name of a command is what stands behind its last slash. Two commands
are compared as a whole first, but that makes no difference, since commands that are equal have
equal names; so of a command a lookup sees its name alone.

* `Named`: a command has a name, in whichever directory its program lies.
* `resembles_iff`: which commands are alike, by their names.
* `lookup_by_name`: commands of one name are found alike.
-/

namespace LaunchSupervisor.IconCache

/-! ### Names -/

/-- **A command has a name**: it is that name, or a program of that name in some directory. -/
def Named (command name : String) : Prop :=
  '/' ∉ name.toList ∧ (command = name ∨ ∃ directory, command = directory ++ "/" ++ name)

theorem named_iff (command name : String) :
    Named command name ↔ baseName command.toList = name.toList := by
  rw [baseName, Text.afterLast_eq_iff, Named, String.toList_inj]
  refine and_congr_right fun _ => or_congr_right ⟨?_, ?_⟩
  · rintro ⟨directory, rfl⟩
    exact ⟨directory.toList, by simp⟩
  · rintro ⟨directory, whole⟩
    exact ⟨.ofList directory, String.toList_inj.mp (by simp [whole])⟩

theorem named_baseName (command : String) : Named command (.ofList (baseName command.toList)) :=
  (named_iff ..).mpr String.toList_ofList.symm

variable {command other name : String}

/-- A command has no other name. -/
theorem Named.unique {second : String} (one : Named command name) (two : Named command second) :
    second = name := by
  rw [named_iff] at one two
  exact String.toList_inj.mp (two.symm.trans one)

/-! ### Names that are alike -/

theorem resembles_eq_namesAlike (a b : String) :
    resembles a b = namesAlike (baseName a.toList) (baseName b.toList) := by
  rw [resembles]
  by_cases same : a = b
  · rw [same, namesAlike_refl, Bool.or_true]
  · rw [beq_eq_false_iff_ne.mpr same, Bool.false_or]

/-- **Which commands are alike**: those whose names are equal, or neither of them empty and one a
part of the other when case does not count. -/
theorem resembles_iff {a b one two : String} (first : Named a one) (second : Named b two) :
    resembles a b ↔
      one = two ∨ one ≠ "" ∧ two ≠ "" ∧
        (Text.lowerCase two.toList <:+: Text.lowerCase one.toList ∨
          Text.lowerCase one.toList <:+: Text.lowerCase two.toList) := by
  rw [named_iff] at first second
  rw [resembles_eq_namesAlike, first, second, namesAlike]
  simp [Text.occursIn_iff, String.toList_inj, and_assoc]

/-- An entry is like a command just when it is like every other of the same name. -/
theorem resembles_congr (one : Named command name) (two : Named other name) (entry : String) :
    resembles entry command = resembles entry other := by
  have own := named_baseName entry
  exact Bool.eq_iff_iff.mpr ((resembles_iff own one).trans (resembles_iff own two).symm)

/-! ### Lookups -/

theorem Store.find?_congr (one : Named command name) (two : Named other name) (store : Store) :
    store.find? command = store.find? other := by
  simp only [Store.find?, resembles_congr one two]

theorem Catalog.find?_congr (one : Named command name) (two : Named other name)
    (catalog : Catalog) : catalog.find? command = catalog.find? other := by
  simp only [Catalog.find?, resembles_congr one two]

/-- **Commands of one name are found alike**, whatever the cache holds: they have the same action,
the same icon of their own and the same icon in the end. Every command has one name, and what
commands are compared by is reflexive and symmetric. -/
theorem lookup_by_name (cache : IconCache) (one : Named command name) (two : Named other name) :
    cache.findIcon command = cache.findIcon other ∧
      cache.store.find? command = cache.store.find? other ∧
      Catalog.find? cache.catalog command = Catalog.find? cache.catalog other ∧
      (∀ a, ∃! name, Named a name) ∧ (∀ a, resembles a a) ∧
      ∀ a b, resembles a b = resembles b a := by
  have action := Store.find?_congr one two cache.store
  have icon := Catalog.find?_congr one two cache.catalog
  refine ⟨?_, action, icon, fun a => ?_, resembles_refl, resembles_comm⟩
  · rw [findIcon, findIcon, action, icon]
  · exact ⟨_, named_baseName a, fun _ => (named_baseName a).unique⟩

/-- A cache that knows which action started a wrapper, and the icon of that action. -/
def wrapping : IconCache :=
  { catalog := [⟨"/usr/dt/bin/dtterm", "Dtterm"⟩]
    store := { path := none, entries := [⟨"/opt/xterm-wrapper", "dtterm"⟩], dirty := false } }

/-- A program with and without its directory: the entry that is like it has another name. -/
theorem lookup_by_name_xterm :
    Named "/usr/bin/XTerm" "XTerm" ∧ Named "XTerm" "XTerm" ∧
      wrapping.findIcon "/usr/bin/XTerm" = some "Dtterm" ∧
      wrapping.findIcon "XTerm" = some "Dtterm" := by
  have one : Named "/usr/bin/XTerm" "XTerm" := ⟨by decide, .inr ⟨"/usr/bin", by decide⟩⟩
  have two : Named "XTerm" "XTerm" := ⟨by decide, .inl rfl⟩
  have found : wrapping.findIcon "XTerm" = some "Dtterm" := by decide +kernel
  exact ⟨one, two, (lookup_by_name wrapping one two).1.trans found, found⟩

end LaunchSupervisor.IconCache
