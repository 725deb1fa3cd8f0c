import PluginHost.Proofs.CommandLine.NulFree
import PluginHost.Proofs.Request.FirstNul
import PluginHost.Proofs.Request.HeadersJson
import PluginHost.Proofs.Request.Indistinguishable

/-!
# The request that arguments describe

The body is had first: a body file that cannot be read is why no request is built, whatever else is
wrong. After that the first NUL is why. If there is none, the request says what the arguments say.
-/

namespace PluginHost.Arguments

open PluginHost.Text
open PluginHost.Outcome (bind_eq_error mapError_eq_ok mapError_eq_error)

variable {arguments : Arguments} {files : FileTree} {body : Bytes} {error : BuildError}

/-! ## The body -/

/-- What the body is. A text comes before a file. -/
inductive BodySource (arguments : Arguments) (files : FileTree) : Bytes → Prop where
  | text {text : String} (given : arguments.body = some text) :
      BodySource arguments files (Utf8.encode text)
  | file {path content : Bytes} (noText : arguments.body = none)
      (fromFile : arguments.bodyFile = some path) (reads : files.readFile path = .ok content) :
      BodySource arguments files content
  | nothing (noText : arguments.body = none) (noFile : arguments.bodyFile = none) :
      BodySource arguments files []

/-- The body file cannot be read. -/
inductive Unreadable (arguments : Arguments) (files : FileTree) : BuildError → Prop where
  | mk {path : Bytes} {cause : IoError} (noText : arguments.body = none)
      (fromFile : arguments.bodyFile = some path) (fails : files.readFile path = .error cause) :
      Unreadable arguments files (.bodyFile path cause)

theorem bodyBytes_of_text {text : String} (given : arguments.body = some text) :
    arguments.bodyBytes files = .ok (Utf8.encode text) := by
  rw [bodyBytes, given]

theorem bodyBytes_of_file {path : Bytes} (noText : arguments.body = none)
    (fromFile : arguments.bodyFile = some path) :
    arguments.bodyBytes files = (files.readFile path).mapError (.bodyFile path) := by
  rw [bodyBytes, noText, fromFile]

theorem bodyBytes_of_nothing (noText : arguments.body = none)
    (noFile : arguments.bodyFile = none) : arguments.bodyBytes files = .ok [] := by
  rw [bodyBytes, noText, noFile]

theorem bodyBytes_eq_ok_iff :
    arguments.bodyBytes files = .ok body ↔ arguments.BodySource files body := by
  constructor
  · intro reads
    cases isText : arguments.body with
    | some text =>
        cases (bodyBytes_of_text isText).symm.trans reads
        exact .text isText
    | none =>
        cases isFile : arguments.bodyFile with
        | some path =>
            rw [bodyBytes_of_file isText isFile, mapError_eq_ok] at reads
            exact .file isText isFile reads
        | none =>
            cases (bodyBytes_of_nothing isText isFile).symm.trans reads
            exact .nothing isText isFile
  · intro source
    cases source with
    | text given => exact bodyBytes_of_text given
    | file noText fromFile reads =>
        rw [bodyBytes_of_file noText fromFile, reads]
        rfl
    | nothing noText noFile => exact bodyBytes_of_nothing noText noFile

theorem bodyBytes_eq_error_iff :
    arguments.bodyBytes files = .error error ↔ arguments.Unreadable files error := by
  constructor
  · intro fails
    cases isText : arguments.body with
    | some text => cases (bodyBytes_of_text isText).symm.trans fails
    | none =>
        cases isFile : arguments.bodyFile with
        | some path =>
            rw [bodyBytes_of_file isText isFile, mapError_eq_error] at fails
            obtain ⟨cause, unread, rfl⟩ := fails
            exact .mk isText isFile unread
        | none => cases (bodyBytes_of_nothing isText isFile).symm.trans fails
  · rintro ⟨noText, fromFile, fails⟩
    rw [bodyBytes_of_file noText fromFile, fails]
    rfl

/-! ## Errors -/

/-- What the request with a body is built from. -/
def draft (arguments : Arguments) (body : Bytes) : Draft where
  method := Utf8.encode arguments.method
  uri := Utf8.encode arguments.uri
  body := body
  headers := arguments.headers.map fun header => (header.name, Utf8.encode header.value)

theorem request_eq (arguments : Arguments) (files : FileTree) :
    arguments.request files =
      arguments.bodyBytes files >>= fun body =>
        (arguments.draft body).build.mapError .request := rfl

/-- Why no request can be built: the body file cannot be read, or else there is a first NUL. -/
inductive Refused (arguments : Arguments) (files : FileTree) : BuildError → Prop where
  | unreadable {error : BuildError} (fails : arguments.Unreadable files error) :
      Refused arguments files error
  | nul {body : Bytes} {error : RequestError} (source : arguments.BodySource files body)
      (first : FirstNul (arguments.draft body).parts error) :
      Refused arguments files (.request error)

theorem request_eq_error_iff_refused :
    arguments.request files = .error error ↔ arguments.Refused files error := by
  rw [request_eq, bind_eq_error, bodyBytes_eq_error_iff]
  constructor
  · rintro (fails | ⟨body, reads, fails⟩)
    · exact .unreadable fails
    · obtain ⟨cause, refused, rfl⟩ := mapError_eq_error.mp fails
      exact .nul (bodyBytes_eq_ok_iff.mp reads) ((Draft.build_checks _ cause).mp refused)
  · intro refused
    cases refused with
    | unreadable fails => exact .inl fails
    | nul source first =>
        exact .inr ⟨_, bodyBytes_eq_ok_iff.mpr source,
          mapError_eq_error.mpr ⟨_, (Draft.build_checks _ _).mpr first, rfl⟩⟩

/-- Why no request can be built from arguments without NUL: the body file cannot be read, or its
content holds a NUL. -/
inductive BodyFault (arguments : Arguments) (files : FileTree) : BuildError → Prop where
  | unreadable {path : Bytes} {error : IoError} (noText : arguments.body = none)
      (fromFile : arguments.bodyFile = some path) (fails : files.readFile path = .error error) :
      BodyFault arguments files (.bodyFile path error)
  | nul {path content : Bytes} {position : Nat} (noText : arguments.body = none)
      (fromFile : arguments.bodyFile = some path) (reads : files.readFile path = .ok content)
      (found : Bytes.firstNul? content = some position) :
      BodyFault arguments files (.request (.interiorNul .body position))

theorem nulFreeParts_headers (nulFree : arguments.NulFree) :
    NulFreeParts ((arguments.draft body).headers.flatMap headerParts) := by
  refine nulFreeParts_flatMap.mpr (List.forall_mem_map.mpr fun header given => ?_)
  exact nulFreeParts_header.mpr (nulFree.headers header given)

/-- Where only the body may hold a NUL, the first NUL is its first. -/
theorem firstNul_parts_iff {cause : RequestError} (nulFree : arguments.NulFree) :
    FirstNul (arguments.draft body).parts cause ↔
      Request.checkField .body body = .error cause := by
  have parts_eq : (arguments.draft body).parts = (.method, Utf8.encode arguments.method) ::
    (.uri, Utf8.encode arguments.uri) :: (.body, body) ::
      (arguments.draft body).headers.flatMap headerParts := rfl
  rw [parts_eq, FirstNul.cons_of_clean nulFree.method, FirstNul.cons_of_clean nulFree.uri,
    FirstNul.cons_iff]
  refine or_iff_left ?_
  rintro ⟨_, found⟩
  exact FirstNul.exists_iff.mp ⟨_, found⟩ (nulFreeParts_headers nulFree)

/-- From arguments without NUL a request can be built, unless the body file is at fault. -/
theorem request_eq_error_iff (nulFree : arguments.NulFree) :
    arguments.request files = .error error ↔ BodyFault arguments files error := by
  rw [request_eq_error_iff_refused]
  constructor
  · intro refused
    cases refused with
    | unreadable fails =>
        obtain ⟨noText, fromFile, fails⟩ := fails
        exact .unreadable noText fromFile fails
    | nul source first =>
        obtain ⟨position, found, rfl⟩ :=
          Request.checkField_eq_error_iff.mp ((firstNul_parts_iff nulFree).mp first)
        cases source with
        | text given =>
            rw [(Bytes.firstNul?_eq_none_iff _).mpr (nulFree.body _ given)] at found
            cases found
        | file noText fromFile reads => exact .nul noText fromFile reads found
        | nothing => cases found
  · intro fault
    cases fault with
    | unreadable noText fromFile fails => exact .unreadable ⟨noText, fromFile, fails⟩
    | nul noText fromFile reads found =>
        refine .nul (.file noText fromFile reads) ((firstNul_parts_iff nulFree).mpr ?_)
        exact Request.checkField_eq_error_iff.mpr ⟨_, found, rfl⟩

/-! ## Requests -/

/-- The last of the headers given under a name, in whatever letters. -/
def lastHeader? (arguments : Arguments) (name : String) : Option Header :=
  arguments.headers.findRev? fun header =>
    Bytes.SameButCase (Utf8.encode header.name) (Utf8.encode name)

/-- The request says what the arguments say. -/
structure Describes (arguments : Arguments) (body : Bytes) (request : Request) : Prop where
  method : request.methodText = .ok arguments.method
  uri : request.uriText = .ok arguments.uri
  body : request.body = body
  headersJson : ∃ text, request.headersJson = .ok text
  header : ∀ header ∈ arguments.headers, ∃ last, arguments.lastHeader? header.name = some last ∧
    request.header? header.name = some last.value
  headerCount : request.headerCount =
    (arguments.headers.map fun header => Bytes.lower (Utf8.encode header.name)).toFinset.card

variable {request : Request}

theorem lastValue?_draft (name : String) :
    Request.lastValue? (arguments.draft body).headers (Utf8.encode name) =
      (arguments.lastHeader? name).map fun last => Utf8.encode last.value := by
  rw [Request.lastValue?, lastHeader?, draft, List.findRev?_eq_find?_reverse,
    List.findRev?_eq_find?_reverse, ← List.map_reverse, List.find?_map, Option.map_map]
  rfl

theorem exists_lastHeader? {header : Header} (given : header ∈ arguments.headers) :
    ∃ last, arguments.lastHeader? header.name = some last := by
  rw [← Option.isSome_iff_exists, lastHeader?, List.findRev?_eq_find?_reverse, List.find?_isSome]
  refine ⟨header, List.mem_reverse.mpr given, ?_⟩
  exact decide_eq_true ((Bytes.lower_eq_lower_iff _ _).mp rfl)

/-- The values of arguments are texts, so those that are kept are. -/
theorem hasTextValues_of_build (built : (arguments.draft body).build = .ok request) :
    Request.HasTextValues request := by
  intro entry held
  obtain ⟨_, kept⟩ := (Draft.mem_entries_iff built entry).mp held
  rw [Request.lastValue?, List.findRev?_eq_find?_reverse] at kept
  obtain ⟨pair, found, isValue⟩ := Option.map_eq_some_iff.mp kept
  obtain ⟨header, _, rfl⟩ := List.mem_map.mp (List.mem_reverse.mp (List.mem_of_find?_eq_some found))
  exact ⟨header.value, isValue⟩

theorem nulFree_name_of_build (built : (arguments.draft body).build = .ok request)
    {header : Header} (given : header ∈ arguments.headers) : 0 ∉ Utf8.encode header.name := by
  obtain ⟨_, added⟩ := Draft.build_eq_ok_iff.mp built
  have inHeaders := (Request.exists_withHeaders_iff _ _).mp ⟨request, added⟩
  have stored := (inHeaders _ (List.mem_map_of_mem given)).1
  rwa [Request.storedName, Bytes.zero_mem_lower_iff] at stored

theorem headerCount_of_build (built : (arguments.draft body).build = .ok request) :
    request.headerCount =
      (arguments.headers.map fun header => Bytes.lower (Utf8.encode header.name)).toFinset.card := by
  obtain ⟨inFields, added⟩ := Draft.build_eq_ok_iff.mp built
  have bare := Request.Sound.ofBuild (Request.build_eq_ok_iff.mpr ⟨inFields, rfl⟩)
  rw [Request.headerCount_withHeaders bare added, draft, List.map_map]
  rfl

theorem describes_of_build (built : (arguments.draft body).build = .ok request) :
    arguments.Describes body request := by
  obtain ⟨method, uri, isBody⟩ := Draft.build_keeps built
  constructor
  · rw [Request.methodText, method]
    exact Request.readText_eq_ok_iff.mpr rfl
  · rw [Request.uriText, uri]
    exact Request.readText_eq_ok_iff.mpr rfl
  · exact isBody
  · have sound := (Draft.reachable built).sound
    obtain ⟨object, _, _, made⟩ := sound.exists_object (hasTextValues_of_build built)
    exact ⟨object.write, congrArg (Except.map _) (made _ (.refl _))⟩
  · intro header given
    obtain ⟨last, isLast⟩ := exists_lastHeader? given
    refine ⟨last, isLast, ?_⟩
    rw [Request.header?_eq, if_neg (nulFree_name_of_build built given), Request.storedName,
      Draft.find?_build built, lastValue?_draft, isLast, Option.map_some, Option.bind_some,
      Utf8.decode?_encode]
  · exact headerCount_of_build built

/-- The body of a request is no text exactly if it is from a file that holds none. -/
theorem bodyText_eq_error_iff (source : arguments.BodySource files body)
    (isBody : request.body = body) :
    (∃ error, request.bodyText = .error error) ↔
      (arguments.body = none ∧ ∃ path, arguments.bodyFile = some path) ∧
        ∀ text, Utf8.encode text ≠ body := by
  have unread : (∃ error, request.bodyText = .error error) ↔ ∀ text, Utf8.encode text ≠ body := by
    simp only [Outcome.exists_error_iff, ne_eq, Request.bodyText, isBody,
      Request.readText_eq_ok_iff]
  rw [unread]
  refine (and_iff_right_of_imp fun noText => ?_).symm
  cases source with
  | text _ => exact absurd rfl (noText _)
  | file isText isFile _ => exact ⟨isText, _, isFile⟩
  | nothing _ _ => exact absurd rfl (noText "")

theorem unreadable_or_bodySource (arguments : Arguments) (files : FileTree) :
    (∃ error, arguments.Unreadable files error) ∨ ∃ body, arguments.BodySource files body := by
  cases reads : arguments.bodyBytes files with
  | error error => exact .inl ⟨error, bodyBytes_eq_error_iff.mp reads⟩
  | ok body => exact .inr ⟨body, bodyBytes_eq_ok_iff.mp reads⟩

/-- No request is built exactly if the body file cannot be read, whatever else is wrong, or else a
part holds a NUL: then the first NUL is told. If neither is so, the request says what the arguments
say, and its body is no text exactly if it is from a file that holds none. A body that is given as
text makes files irrelevant. -/
theorem request_outcome (arguments : Arguments) (files : FileTree) :
    (∀ error, arguments.request files = .error error ↔ arguments.Refused files error) ∧
      ((∃ error, arguments.Unreadable files error) ∨ ∃ body, arguments.BodySource files body) ∧
      (∀ body, arguments.BodySource files body → NulFreeParts (arguments.draft body).parts →
        ∃ request, arguments.request files = .ok request ∧ arguments.Describes body request ∧
          ((∃ error, request.bodyText = .error error) ↔
            (arguments.body = none ∧ ∃ path, arguments.bodyFile = some path) ∧
              ∀ text, Utf8.encode text ≠ body)) ∧
      ∀ text, arguments.body = some text → ∀ otherFile otherFiles,
        Arguments.request { arguments with bodyFile := otherFile } otherFiles =
          arguments.request files := by
  refine ⟨fun error => request_eq_error_iff_refused, unreadable_or_bodySource arguments files, ?_,
    fun text given otherFile otherFiles => ?_⟩
  · intro body source nulFree
    obtain ⟨request, built⟩ := (arguments.draft body).build_checks.exists_ok_iff.mpr nulFree
    have described := describes_of_build built
    refine ⟨request, ?_, described, bodyText_eq_error_iff source described.body⟩
    rw [request_eq, bodyBytes_eq_ok_iff.mpr source]
    exact congrArg (Except.mapError _) built
  · have other : bodyBytes { arguments with bodyFile := otherFile } otherFiles =
      .ok (Utf8.encode text) := bodyBytes_of_text given
    rw [request_eq, request_eq, bodyBytes_of_text given, other]
    rfl

/-- A tree with one file, and arguments that take the body from a file. -/
def oneFile (content : Bytes) : FileTree := (FileTree.mk [] [] []).putFile [98] content

def fromFile (method : String) (headers : List Header) (path : Bytes) : Arguments :=
  ⟨[], "", method, "/", headers, none, some path⟩

/-- Of two values under one name the last counts. A value with a NUL is told before the name after
it, and a file that is not there before any NUL. -/
theorem request_outcome_from_file :
    (∃ request, (fromFile "GET" [⟨"Host", "a"⟩, ⟨"X", "b"⟩, ⟨"HOST", "c"⟩] [98]).request
        (oneFile [0xFF]) = .ok request ∧ request.header? "Host" = some "c" ∧
        request.headerCount = 2 ∧ ∃ error, request.bodyText = .error error) ∧
      (fromFile "GET" [⟨"A", "b\x00"⟩, ⟨"\x00", "c"⟩] [98]).request (oneFile [0xFF]) =
        .error (.request (.interiorNul .headerValue 1)) ∧
      (fromFile "\x00" [] [97]).request (oneFile [0xFF]) =
        .error (.bodyFile [97] .noSuchFile) := by
  have source (method : String) (headers : List Header) :
      (fromFile method headers [98]).BodySource (oneFile [0xFF]) [0xFF] := .file rfl rfl rfl
  refine ⟨?_, ?_, ?_⟩
  · obtain ⟨_, _, builds, _⟩ := request_outcome
      (fromFile "GET" [⟨"Host", "a"⟩, ⟨"X", "b"⟩, ⟨"HOST", "c"⟩] [98]) (oneFile [0xFF])
    obtain ⟨request, built, described, legible⟩ := builds [0xFF] (source _ _) (by decide)
    obtain ⟨last, isLast, found⟩ := described.header ⟨"Host", "a"⟩ List.mem_cons_self
    have computed : (fromFile "GET" [⟨"Host", "a"⟩, ⟨"X", "b"⟩, ⟨"HOST", "c"⟩] [98]).lastHeader?
      "Host" = some ⟨"HOST", "c"⟩ := by decide
    cases computed.symm.trans isLast
    refine ⟨request, built, found, ?_, legible.mpr ⟨⟨rfl, _, rfl⟩, ?_⟩⟩
    · rw [described.headerCount]
      decide
    · exact Utf8.decode?_eq_none_iff.mp rfl
  · obtain ⟨refused, _⟩ := request_outcome (fromFile "GET" [⟨"A", "b\x00"⟩, ⟨"\x00", "c"⟩] [98])
      (oneFile [0xFF])
    have first : FirstNul [(.headerValue, Utf8.encode "b\x00"), (.headerName, [0]),
        (.headerValue, [99])] (.interiorNul .headerValue 1) :=
      @FirstNul.here .headerValue [98] [] _ (by decide)
    exact (refused _).mpr (.nul (source _ _) (.later (by decide) (.later (by decide)
      (.later (by decide) (.later (by decide) first)))))
  · obtain ⟨refused, _⟩ := request_outcome (fromFile "\x00" [] [97]) (oneFile [0xFF])
    exact (refused _).mpr (.unreadable (.mk rfl rfl rfl))

/-- A body from a file may be text as well. -/
theorem request_body_from_text_file :
    ∃ request, (fromFile "GET" [] [98]).request (oneFile (Utf8.encode "file")) = .ok request ∧
      ¬ ((∃ error, request.bodyText = .error error) ↔
        (fromFile "GET" [] [98]).body = none ∧
          ∃ path, (fromFile "GET" [] [98]).bodyFile = some path) := by
  refine ⟨⟨Utf8.encode "GET", Utf8.encode "/", .empty, Utf8.encode "file"⟩, rfl, fun always => ?_⟩
  obtain ⟨error, unread⟩ := always.mpr ⟨rfl, _, rfl⟩
  cases unread

end PluginHost.Arguments
