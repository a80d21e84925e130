import ImSplash.QueryString
import ImSplash.URIReference
import Mathlib.Data.List.DropRight

/-!
# What the app uses of Foundation

A `URL` is its string: two URLs are one key of a dictionary only when their strings are the
same, though both may lead to one file.  The path operations of
`DownloadManager.localFilePath` act on the path as it is written, percent-encoded.
`NSError` is kept by its domain and code, which is all `isNoInternetConnectionError` reads.
-/

namespace ImSplash

/-- The bytes of a response or a file. -/
abbrev Data := List UInt8

/-- A `URL`, by its string. -/
structure URL where
  absoluteString : String
deriving DecidableEq, Repr

namespace URL
variable (url : URL)

def components : URIReference.Parts := .ofChars url.absoluteString.toList

def ofComponents (components : URIReference.Parts) : URL := ⟨String.ofList components.toChars⟩

/-- What has been put together is taken apart again. -/
theorem components_ofComponents {components : URIReference.Parts} (h : components.WellFormed) :
    (ofComponents components).components = components := by
  rw [ofComponents, URL.components, String.toList_ofList]
  exact URIReference.Parts.ofChars_toChars h

/-- The query as it is written, percent-encoded. -/
def query : Option String := url.components.query.map String.ofList

/-- The characters that stand for themselves in a segment of a path. -/
def isPathAllowed (c : Char) : Bool :=
  (c.toNat < 128 && c.isAlphanum) || "-._~!$&'()*+,;=:@".toList.contains c

/-- `CharacterSet.urlPathAllowed`, which is without the semicolon. -/
def isURLPathAllowed (c : Char) : Bool := isPathAllowed c && c ≠ ';' || c = '/'

theorem isURLPathAllowed_percent : isURLPathAllowed '%' = false := by decide

/-- No mark of a query or a fragment is left in a path. -/
theorem isMark_of_mem_escape {component : List Char} {c : Char}
    (h : c ∈ QueryString.escape isURLPathAllowed component) : URIReference.isMark c = false := by
  have hquestion : '?' ∉ QueryString.escape isURLPathAllowed component :=
    QueryString.not_mem_escape (by decide)
      (QueryString.not_mem_escapeByte_of (by decide) (by decide)) _
  have hhash : '#' ∉ QueryString.escape isURLPathAllowed component :=
    QueryString.not_mem_escape (by decide)
      (QueryString.not_mem_escapeByte_of (by decide) (by decide)) _
  simp only [URIReference.isMark, Bool.or_eq_false_iff, decide_eq_false_iff_not]
  refine ⟨?_, ?_⟩
  · rintro rfl
    exact hquestion h
  · rintro rfl
    exact hhash h

/-- The path as it is written, without the slashes at its end. -/
def trimmedPath : List Char := url.components.path.rdropWhile (· = '/')

/-- The last component of the path, decoded.  A slash at the end does not count, unless it is
all there is. -/
@[irreducible] def lastPathComponent : String :=
  if url.trimmedPath = [] then String.ofList (url.components.path.take 1)
  else (QueryString.decodeComponent (url.trimmedPath.rtakeWhile (· ≠ '/'))).getD ""

/-- The component is encoded, but for its slashes: it may be a path of its own. -/
@[irreducible] def appendingPathComponent (component : String) : URL :=
  let component := QueryString.escape isURLPathAllowed component.toList
  let slash :=
    if url.components.path.getLast? = some '/' ∨ component.head? = some '/' then [] else ['/']
  ofComponents { url.components with path := url.components.path ++ (slash ++ component) }

/-- The extension goes onto the last component, in front of a slash at the end. -/
@[irreducible] def appendingPathExtension (pathExtension : String) : URL :=
  if url.trimmedPath = [] then url
  else ofComponents { url.components with
    path := url.trimmedPath ++ '.' :: QueryString.escape isPathAllowed pathExtension.toList ++
      url.components.path.rtakeWhile (· = '/') }

/-- The path, decoded; a slash at the end is left out. -/
def path : String :=
  (QueryString.decodeComponent (if url.trimmedPath = [] then url.components.path.take 1
    else url.trimmedPath)).getD ""

/-- The file at a URL, by the names on the way from the root. -/
@[irreducible] def filePath : List String := URIReference.resolve url.path.toList

end URL

/-- An `NSError`, by its domain and code. -/
structure NSError where
  domain : String
  code : Int
deriving DecidableEq, Repr

namespace NSError

def urlErrorDomain : String := "NSURLErrorDomain"

/-- `NSURLErrorNetworkConnectionLost`, `NSURLErrorNotConnectedToInternet`,
`NSURLErrorInternationalRoamingOff`, `NSURLErrorCallIsActive` and
`NSURLErrorDataNotAllowed`. -/
def noInternetConnectionErrorCodes : List Int := [-1005, -1009, -1018, -1019, -1020]

def isNoInternetConnectionError (error : NSError) : Bool :=
  error.domain = urlErrorDomain && noInternetConnectionErrorCodes.contains error.code

end NSError

end ImSplash
