/-!
# Directories

Values filed under names. A name stands for at most one value: setting it again
replaces the value, and looking up a name that was never set finds nothing.
-/

namespace TrialRouting

/-- Values by name. -/
abbrev Directory (α : Type) := List (String × α)

namespace Directory

variable {α : Type}

/-- The value filed under a name. -/
def lookup? (entries : Directory α) (name : String) : Option α :=
  (entries.find? (·.1 == name)).map (·.2)

/-- The directory without one name. -/
def without (entries : Directory α) (name : String) : Directory α :=
  entries.filter (·.1 != name)

/-- The directory with a value filed under a name. -/
def set (entries : Directory α) (name : String) (value : α) : Directory α :=
  (name, value) :: entries.without name

/-- The names in use, sorted. -/
def names (entries : Directory α) : List String :=
  (entries.map (·.1)).mergeSort

/-- A name that has just been set stands for the value. -/
theorem lookup?_set_self (entries : Directory α) (name : String) (value : α) :
    lookup? (set entries name value) name = some value := by
  simp [lookup?, set]

/-- Setting a name leaves the others alone. -/
theorem lookup?_set_of_ne (entries : Directory α) {name other : String} (value : α)
    (distinct : other ≠ name) :
    lookup? (set entries name value) other = lookup? entries other := by
  have head : (name == other) = false := by simp [Ne.symm distinct]
  simp only [lookup?, set, without, List.find?_cons, head, List.find?_filter]
  congr 1
  induction entries with
  | nil => rfl
  | cons entry rest ih =>
    by_cases here : entry.1 = other
    · simp [here, distinct]
    · by_cases gone : entry.1 = name <;> simp_all

end Directory

end TrialRouting
