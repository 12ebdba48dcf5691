import RouteIR.Address
import RouteIR.Deflate.Frame
import RouteIR.Host
import RouteIR.Source.Content
import RouteIR.Source.ContentType
import RouteIR.Text.Charset
import RouteIR.Text.Encoding

namespace RouteIR
namespace Source

/-!
# Loading documents

A document comes from the input stream, from an address on the network, or from a
file.  The name of a file and the content type of an answer tell the format where
they can; the input stream never does.  The content type tells the charset of an answer
as well.
-/

inductive LoadError where
  | noInput
  /-- Nothing can be asked for at the address. -/
  | invalidAddress (fault : Address.AddressFault)
  /-- The fields of an answer are not in ASCII. -/
  | unreadableHeaders
  /-- The charset of an answer gives no text. -/
  | undecodable (fault : Text.CharsetFault)
  | status (code : Nat) (address : String)
  | unreachable (address reason : String)
  | notFound (path : String)
  | unreadable (path : String) (error : OsError)
  /-- It cannot be found out whether there is a file. -/
  | hidden (error : OsError)
  /-- A file that does not hold text. -/
  | notText
  | empty (path : String)
  | content (error : ContentError)
deriving Repr

/-- The message of an error, for those that have one. -/
def LoadError.message? : LoadError → Option String
  | noInput => some "No input received from stdin"
  | status code address =>
      some ("HTTP " ++ toString code ++ " fetching document from " ++ address)
  | unreachable address reason =>
      some ("Failed to fetch document from " ++ address ++ ": " ++ reason)
  | notFound path => some ("Document not found: " ++ path)
  | unreadable path error => some ("Failed to read document " ++ path ++ ": " ++ error.message)
  | invalidAddress _ | unreadableHeaders | undecodable _ | hidden _ | notText => none
  | empty path => some ("Document is empty: " ++ path)
  | content error => error.message?

def isInfix (part : List Char) : List Char → Bool
  | [] => part.isEmpty
  | char :: rest => part.isPrefixOf (char :: rest) || isInfix part rest

/-- The format that a content type tells. -/
def formatOfContentType (contentType : String) : Format :=
  let mentions (word : String) : Bool := isInfix word.toList contentType.toList
  if mentions "json" then .json
  else if mentions "yaml" || mentions "yml" then .yaml
  else .unknown

/-- The format that the name of a file tells, by its suffix in either case. -/
def formatOfPath (path : Path) : Format :=
  let suffix := String.ofList (path.suffix.map Char.toLower)
  if suffix = ".json" then .json
  else if suffix = ".yaml" || suffix = ".yml" then .yaml
  else .unknown

/-- The tree of a text that is not blank. -/
def readNonblank (blank : LoadError) (format : Format) (text : String) : Except LoadError Tree :=
  if Text.isBlankText text then .error blank
  else (readContent format text).mapError .content

/-- Whether all fields of an answer are in ASCII. -/
def hasPlainHeaders (response : Response) : Bool :=
  response.headers.all fun (name, value) => Address.isAscii (name ++ value).toList

/-- Undoes a coding of the body of an answer.  A coding that is not known is left as it is. -/
def undoCoding (body : List UInt8) (coding : String) : Deflate.Result :=
  if coding = "gzip" then Deflate.expandFile body
  else if coding = "deflate" then Deflate.expandFramed body
  else .ok body

/-- The codings of the body of an answer, the first one inside. -/
def codingsOf (response : Response) : List String :=
  ((response.header "content-encoding").toList.splitOn ',').map fun coding =>
    String.ofList ((Text.trimBlanks coding).map Char.toLower)

def bodyOf (response : Response) : Deflate.Result :=
  (codingsOf response).reverse.foldlM undoCoding response.body

/-- The charset of an answer; one that is missing or unknown is that of all other texts. -/
def charsetOf (response : Response) : Text.Charset :=
  ((charsetName? (response.header "content-type")).bind Text.Charset.ofName?).getD (.utf8 false)

/-- The text of an answer with the given body.  An empty body needs no charset. -/
def textOfBody (response : Response) (body : List UInt8) : Except LoadError String :=
  if body.isEmpty then .ok ""
  else ((charsetOf response).decode body).map String.ofList |>.mapError .undecodable

/-- The tree of an answer; only the two hundreds are a success. -/
def readResponse (address : String) (response : Response) : Except LoadError Tree := do
  if !hasPlainHeaders response then throw .unreadableHeaders
  let body ← (bodyOf response).mapError fun fault =>
    .unreachable address ("Error -3 while decompressing data: " ++ fault.message)
  if response.status < 200 || 300 ≤ response.status then
    throw (.status response.status address)
  let format := formatOfContentType (response.header "content-type")
  (readContent format (← textOfBody response body)).mapError .content

/-- The tree of a file's content. -/
def readFileContent (source : String) (content : List UInt8) : Except LoadError Tree :=
  match Text.decodeFile? content with
  | none => .error .notText
  | some text => readNonblank (.empty source) (formatOfPath (.ofText source)) text

variable {m : Type → Type} [Monad m] [Host m]

/-- Loads a document. -/
def load (source : String) : m (Except LoadError Tree) := do
  if source = "-" then return readNonblank .noInput .unknown (← Host.readInput)
  else if let some afterScheme := Address.afterScheme? source then
    match Address.check source afterScheme with
    | .error fault => return .error (.invalidAddress fault)
    | .ok () =>
        match ← Host.fetch source with
        | .error reason => return .error (.unreachable source reason)
        | .ok response => return readResponse source response
  else
    let path := Path.ofText source
    match ← Host.kindAt path with
    | .error error => return .error (.hidden error)
    | .ok (some .file) =>
        match ← Host.readFile path with
        | .error error => return .error (.unreadable source error)
        | .ok content => return readFileContent source content
    | .ok _ => return .error (.notFound source)

end Source
end RouteIR
