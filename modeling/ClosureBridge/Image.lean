import ClosureBridge.Bindings
import ClosureBridge.Error
import ClosureBridge.FileTree

/-!
# Interpreter images

An interpreter is bound from an image: a shared library that exports the entry points of the
interpreter's native interface.

## Main definitions

* `Shelf`: the images that may be opened.
* `Image`: an open image.
* `Image.openPath`, `Image.openName`, `Image.findSymbol`.
-/

namespace ClosureBridge

/-- The images that may be opened, each with the symbols it exports. -/
structure Shelf where
  /-- The files, images and others. -/
  tree : FileTree := {}
  /-- The images among the files, by place. -/
  images : List (Place × List String) := []
  /-- The images that the platform finds by name. -/
  named : Bindings (List String) := ∅

namespace Shelf

/-- Whether anything lies at a path. -/
def holds (shelf : Shelf) (path : String) : Bool :=
  ((shelf.tree.place [] path).toOption.bind shelf.tree.at?).isSome

/-- The symbols of the image at a path. -/
def symbolsAt? (shelf : Shelf) (path : String) : Option (List String) := do
  let place ← (shelf.tree.place [] path).toOption
  return (← shelf.images.find? (·.1 == place)).2

end Shelf

/-- An open image. -/
structure Image where
  /-- The path or name it was opened by. -/
  name : String
  /-- The symbols it exports. -/
  symbols : List String
  deriving DecidableEq, Repr

namespace Image

/-- Whether a text can cross the boundary: a NUL would end it early. -/
def crosses (text : String) : Bool :=
  !text.toList.contains '\x00'

/-- The image with a name and symbols, if it could be opened. -/
def ofSymbols (name : String) : Option (List String) → Except LoadError Image
  | some symbols => .ok ⟨name, symbols⟩
  | none => .error (.loadFailed "")

/-- Open an image by a name that the platform looks up. -/
def openName (shelf : Shelf) (name : String) : Except LoadError Image :=
  if crosses name then ofSymbols name (shelf.named.get? name) else .error .invalidName

/-- Open an image by its path; something has to lie there. -/
def openPath (shelf : Shelf) (path : String) : Except LoadError Image :=
  if shelf.holds path then ofSymbols path (shelf.symbolsAt? path) else .error (.notFound path)

/-- Look a symbol up. -/
def findSymbol (image : Image) (name : String) : Except SymbolError Unit :=
  if crosses name then
    if image.symbols.contains name then .ok () else .error (.notFound name)
  else .error .invalidName

/-- An image in diagnostics. -/
def describe (image : Image) : String :=
  "Library \x7b name: " ++ Quoted.text image.name ++ " \x7d"

end Image

end ClosureBridge
