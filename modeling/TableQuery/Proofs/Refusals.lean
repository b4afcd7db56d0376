import TableQuery.Proofs.Lines
import TableQuery.Proofs.Loading

/-!
# Messages that cannot be written

A message ends with a fault in two ways only: the settings cannot be loaded for it, or too many
directories are missing above the log file.  Otherwise its line is added, or the system refuses it
and one line of diagnosis is printed; the files that exist stay as they are.
-/

namespace TableQuery

/-- The variables of an environment hold no NUL characters, which no system takes. -/
def World.IsNulFree (world : World) : Prop :=
  ∀ name value, world.valueOf? name = some value → '\x00' ∉ value.toList

namespace Files

/-! ## Directories above one another -/

/-- The path so many steps above a path. -/
def ancestor : Nat → String → String
  | 0, path => path
  | level + 1, path => ancestor level (parentAndName path).1

end Files

namespace Settings

/-! ## Loads that come to their end -/

/-- A path can be asked about. -/
def IsAskable (world : World) (path : String) : Prop :=
  Files.locate world.tree world.place path ≠ .error .nameTooLong

/-- The settings file can be looked for: a path that a variable names begins with no unknown account,
and no path has a name that is too long. -/
def CanFind (world : World) : Prop :=
  let named := Text.strip ((world.valueOf? fileVariable).getD "")
  if named ≠ "" then ∃ path, expandHome world named = .ok path ∧ IsAskable world path
  else
    IsAskable world (fileIn world.directory) ∧
      (Files.isFile world.tree world.place (fileIn world.directory) ∨
        IsAskable world (fileIn world.library))

/-- Settings can be loaded, or have been: their file can be looked for, and the reader takes it to its
end. -/
def CanLoad (world : World) : Prop :=
  world.settings.loaded ∨
    CanFind world ∧
      ∀ path, findFile world = .ok (some path) → (readFile path world).outcome = .ok ()

/-- The reader of this library takes a file to its end where settings files are left alone, or where
the environment can hold what the file adds. -/
theorem canLoad_iff_of_standardReader
    {world : World}
    (standard : world.reader = standardReader) :
    CanLoad world ↔
      world.settings.loaded ∨
        CanFind world ∧ ∀ path, findFile world = .ok (some path) →
          isDisabled world.environment ∨
            ∀ setting ∈ resolve world.environment (bindings (contentOf world path)),
              IsAddable world.environment setting := by
  unfold CanLoad readFile
  simp only [standard, load_standardReader_eq_ok_iff]

/-- A world after a part of a load: variables have been added, none of them with a NUL character, and
complaints about the settings file may have been printed. -/
structure Prepares (before after : World) : Prop where
  frame : ∃ environment settings complaints, after =
    { before with environment, settings, diagnosis := before.diagnosis ++ complaints }
  nulFree : before.IsNulFree → after.IsNulFree

namespace Prepares

theorem refl (world : World) : Prepares world world :=
  ⟨⟨world.environment, world.settings, "", by rw [String.append_empty]⟩, id⟩

theorem trans
    {first second third : World}
    (begins : Prepares first second)
    (ends : Prepares second third) :
    Prepares first third := by
  obtain ⟨_, _, complaints, rfl⟩ := begins.frame
  obtain ⟨environment, settings, others, rfl⟩ := ends.frame
  exact ⟨⟨environment, settings, complaints ++ others, by rw [String.append_assoc]⟩,
    ends.nulFree ∘ begins.nulFree⟩

theorem print
    (text : String)
    (world : World) :
    Prepares world (world.print text) :=
  ⟨⟨world.environment, world.settings, text, rfl⟩, id⟩

end Prepares

end Settings

namespace Text

/-! ## Single lines -/

end Text

namespace Log

open Files

section Loaded

variable {world : World} {severity : Severity}

end Loaded

/-- A world with a file where the log file needs a directory, and with a settings file that cannot be
read to its end. -/
def occupied : World :=
  { Execution.quiet.1 with
    environment := [("LOG_FILE_PATH", "notes/app.log")]
    tree := (({} : Tree).put ["notes"] (.file "mine\n")).put [".env"]
      (.file "LOG_LEVEL=debug\n=\n") }

/-- What the log prints of a line that is refused, after a complaint about the settings file. -/
example : ((write .debug (.text "x")).runFrom occupied).2.diagnosis =
    "python-dotenv could not parse statement starting at line 2\n" ++
      "❌ Neuspelo logovanje u notes/app.log: [Errno 17] File exists: 'notes'\n" := by
  decide +kernel

end Log
end TableQuery
