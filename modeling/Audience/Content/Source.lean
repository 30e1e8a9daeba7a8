import Audience.Content.Tables

namespace Audience

/-! Where content is loaded from: documents in a file, or content held in memory. -/

/-- Why the documents of a file make no catalog. -/
inductive CatalogError where
  | unjoined (version : String) (cause : JoinError)
  | duplicateVersion (version : String)
deriving Repr, DecidableEq

def CatalogError.message : CatalogError → String
  | unjoined version cause => "version " ++ version ++ ": " ++ cause.message
  | duplicateVersion version => "duplicate data version " ++ version

/-- Why a load gives no content. -/
inductive LoadError where
  | unavailable
  | isDirectory
  | notFound (path : String)
  | invalidData (cause : CatalogError)
  | undecodable (cause : DecodeError)
deriving Repr, DecidableEq

def LoadError.message : LoadError → String
  | unavailable => "storage I/O error: memory storage unavailable"
  | isDirectory => "storage I/O error: Is a directory (os error 21)"
  | notFound path => "content not found: " ++ path
  | invalidData cause => "invalid content data: " ++ cause.message
  | undecodable _ => "serialization error"

namespace Catalog

/-- Adds the content of a document to that of the documents before it. -/
def addDocument (catalog : Catalog) (document : VersionDocument) : Except CatalogError Catalog :=
  match document.tables.join with
  | .error cause => .error (.unjoined document.version cause)
  | .ok tree =>
      if catalog.contains document.version then .error (.duplicateVersion document.version)
      else .ok (catalog.insert document.version tree)

/-- The content of all documents.  The first document that cannot be added is reported. -/
def addDocuments (catalog : Catalog) : List VersionDocument → Except CatalogError Catalog
  | [] => .ok catalog
  | document :: rest => do
      let extended ← addDocument catalog document
      addDocuments extended rest

def ofDocuments (documents : List VersionDocument) : Except CatalogError Catalog :=
  addDocuments SortedMap.empty documents

/-- The content of a file. -/
def ofBytes (bytes : ByteArray) : Except LoadError Catalog :=
  match (Reader.list VersionDocument.reader).decode (Symbol.ofBytes bytes) with
  | .error cause => .error (.undecodable cause)
  | .ok documents =>
      match ofDocuments documents with
      | .error cause => .error (.invalidData cause)
      | .ok catalog => .ok catalog

end Catalog

/-- What is found under the path of a content file. -/
inductive Disk where
  | missing
  | directory
  | file (bytes : ByteArray)

/-- Where a service takes its content from. -/
inductive Source where
  | memory (catalog : Catalog) (available : Bool)
  | file (path : String) (disk : Disk)

namespace Source

/-- Whether a load gets as far as reading. -/
def isAvailable : Source → Bool
  | memory _ available => available
  | file _ _ => true

/-- What a load reads. -/
def content : Source → Except LoadError Catalog
  | memory catalog _ => .ok catalog
  | file path .missing => .error (.notFound path)
  | file _ .directory => .error .isDirectory
  | file _ (.file bytes) => Catalog.ofBytes bytes

/-- The outcome of a load during which nothing changes. -/
def fetch (source : Source) : Except LoadError Catalog :=
  if source.isAvailable then source.content else .error .unavailable

/-- Stores one data version in memory. -/
def put (source : Source) (version : String) (tree : ContentTree) : Option Source :=
  match source with
  | memory catalog available => some (memory (catalog.insert version tree) available)
  | file _ _ => none

/-- Stores all data versions in memory. -/
def replace (source : Source) (catalog : Catalog) : Option Source :=
  match source with
  | memory _ available => some (memory catalog available)
  | file _ _ => none

def setAvailable (source : Source) (available : Bool) : Option Source :=
  match source with
  | memory catalog _ => some (memory catalog available)
  | file _ _ => none

/-- Changes what stands under the path of a file. -/
def setDisk (source : Source) (disk : Disk) : Option Source :=
  match source with
  | memory _ _ => none
  | file path _ => some (file path disk)

end Source

end Audience
