import SchemaMocks.TypeScript.Bundle
import SchemaMocks.TypeScript.PerModel

set_option autoImplicit false
set_option relaxedAutoImplicit false

/-!
The files of a document, in the configured layout, and what is noticed while they are rendered.
-/

namespace SchemaMocks

open TypeScript

def Document.files (doc : Document) (config : GeneratorConfig) : List SourceFile :=
  if config.useMultipleFiles then PerModel.files config doc else Bundle.files config doc

def Document.fileNotices (doc : Document) (config : GeneratorConfig) : List Notice :=
  if config.createMockFactories then doc.models.flatMap (ModelFactory.noticesOf doc) else []

end SchemaMocks
