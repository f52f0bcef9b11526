import CatalogSchema.Configuration
import CatalogSchema.FileTree

/-!
# Context folders

The folder that holds the configuration file. It is either named, by a pathname, or the working folder
itself.
-/

namespace CatalogSchema

structure ContextFolder where
  /-- How the folder is written in messages. -/
  shown : String
  path : Pathname
  deriving DecidableEq, Repr

namespace ContextFolder

/-- The folder that a text names. -/
def ofText (text : String) : ContextFolder := ⟨(Pathname.ofText text).render, .ofText text⟩

/-- The working folder, written in full. -/
def working (shown : String) : ContextFolder := ⟨shown, ⟨.working, []⟩⟩

/-- The configuration file. -/
def file (c : ContextFolder) : Pathname := c.path.child Configuration.fileName

/-- How the configuration file is written in messages. -/
def shownFile (c : ContextFolder) : String := Pathname.renderChild c.shown Configuration.fileName

/-- Whether there is a configuration file, or something in its place. -/
def isSetUp (c : ContextFolder) (files : FileTree) : Except Fault Bool :=
  (files.isThere c.file).mapError (·.fault c.shownFile)

/-- The configuration in the folder. -/
def load (c : ContextFolder) (files : FileTree) : Except Fault Configuration := do
  let text ← (files.read c.file).mapError (·.fault c.shownFile)
  (Configuration.load text).orFault Configuration.modelName

/-- Write the configuration file, and tell the fault that this ended with. -/
def store (c : ContextFolder) (files : FileTree) (configuration : Configuration) :
    FileTree × Option Fault :=
  let (files, problem?) := files.writeText c.file configuration.write
  (files, problem?.map (·.fault c.shownFile))

end ContextFolder

end CatalogSchema
