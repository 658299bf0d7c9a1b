import PagedTables.Text.Quoted
import PagedTables.Url.Host

/-!
# URLs

A URL is split into its scheme, authority, path, query and fragment, and a reference is resolved
against a base. Splitting passes over control characters and spaces in front and over line breaks
and tabs anywhere. A reference without a scheme keeps what it has and takes the rest from the
base; a relative path replaces the last segment of the base's path, and segments of one or two
points are removed.
-/
namespace PagedTables

/-- The parts of a URL. An absent query or fragment is empty. -/
structure Url where
  scheme : List Char
  authority : List Char
  path : List Char
  params : List Char
  query : List Char
  fragment : List Char

namespace Url

/-- Schemes whose references may be relative. -/
def relativeSchemes : List String :=
  ["", "ftp", "http", "gopher", "nntp", "imap", "wais", "file", "https", "shttp", "mms",
    "prospero", "rtsp", "rtspu", "sftp", "svn", "svn+ssh", "ws", "wss"]

/-- Schemes whose URLs have an authority. -/
def authoritySchemes : List String :=
  ["", "ftp", "http", "gopher", "nntp", "telnet", "imap", "wais", "file", "mms", "https",
    "shttp", "snews", "prospero", "rtsp", "rtspu", "rsync", "svn", "svn+ssh", "sftp", "nfs",
    "git", "git+ssh", "ws", "wss"]

/-- Schemes whose paths end in parameters after a semicolon. -/
def paramsSchemes : List String :=
  ["", "ftp", "hdl", "prospero", "http", "imap", "https", "shttp", "rtsp", "rtspu", "sip",
    "sips", "mms", "sftp", "tel"]

/-- Characters that are taken for a separator of the authority once they are normalized. -/
def lookalikes : List Nat :=
  [0x2047, 0x2048, 0x2049, 0x2100, 0x2101, 0x2105, 0x2106, 0x2A74, 0xFE13, 0xFE16, 0xFE55,
    0xFE56, 0xFE5F, 0xFE6B, 0xFF03, 0xFF0F, 0xFF1A, 0xFF1F, 0xFF20]

/-- A character of a scheme. -/
def isSchemeChar (c : Char) : Bool :=
  c.isAlphanum || c = '+' || c = '-' || c = '.'

/-- The characters before the first `c`, and those after it if there is one. -/
def cut (c : Char) (cs : List Char) : List Char × Option (List Char) :=
  (cs.takeWhile (· ≠ c), ((cs.dropWhile (· ≠ c)).head?).map fun _ =>
    (cs.dropWhile (· ≠ c)).drop 1)

/-- The scheme in small letters, or else `default`, and what follows it. -/
def takeScheme (default cs : List Char) : List Char × List Char :=
  match cut ':' cs with
  | (scheme, some rest) =>
    if (scheme.head?.map Char.isAlpha).getD false && scheme.all isSchemeChar then
      (scheme.map Char.toLower, rest)
    else (default, cs)
  | _ => (default, cs)

/-- The authority after two slashes, and what follows it. -/
def takeAuthority (cs : List Char) : List Char × List Char :=
  match cs with
  | '/' :: '/' :: rest =>
    let ends (c : Char) : Bool := c = '/' || c = '?' || c = '#'
    (rest.takeWhile (!ends ·), rest.dropWhile (!ends ·))
  | _ => ([], cs)

/-- The characters after the last `@`, or all if there is none. -/
def afterUser (authority : List Char) : List Char :=
  (authority.reverse.takeWhile (· ≠ '@')).reverse

/--
The host of an authority that has brackets: behind the user's name, and between brackets with
nothing but a port behind them, or in front of the port if the brackets belong to the name.
-/
def bracketedHost (authority : List Char) : Except UrlFault (List Char) :=
  match cut '[' (afterUser authority) with
  | (before, some inner) =>
    match before, cut ']' inner with
    | _ :: _, _ => .error .brackets
    | [], (host, some (':' :: _)) => .ok host
    | [], (host, some []) => .ok host
    | [], (host, none) => .ok host
    | [], _ => .error .brackets
  | (hostAndPort, none) => .ok (cut ':' hostAndPort).1

/-- What is wrong with an authority. -/
def checkAuthority (authority : List Char) : Except UrlFault Unit := do
  if authority.contains '[' != authority.contains ']' then .error .brackets
  else
    if authority.contains '[' then Host.check Text.quoted (← bracketedHost authority)
    if authority.any fun c => lookalikes.contains c.toNat then
      .error (.lookalike (String.ofList authority))

/-- The parameters after a semicolon in the last segment of a path. -/
def takeParams (path : List Char) : List Char × List Char :=
  let final := (path.reverse.takeWhile (· ≠ '/')).reverse
  let before := path.take (path.length - final.length)
  match cut ';' final with
  | (segment, some params) => (before ++ segment, params)
  | _ => (path, [])

/-- Splits a URL; `default` is the scheme of one that has none. -/
def split (default : List Char) (s : List Char) : Except UrlFault Url := do
  let cs := (s.dropWhile (·.toNat ≤ 0x20)).filter fun c => c ≠ '\t' && c ≠ '\r' && c ≠ '\n'
  let (scheme, rest) := takeScheme default cs
  let (authority, rest) := takeAuthority rest
  checkAuthority authority
  let (rest, fragment) := cut '#' rest
  let (path, query) := cut '?' rest
  let (path, params) :=
    if paramsSchemes.contains (String.ofList scheme) then takeParams path else (path, [])
  return ⟨scheme, authority, path, params, query.getD [], fragment.getD []⟩

/-- A text with a mark in front, unless it is empty. -/
def marked (mark : Char) (cs : List Char) : List Char :=
  if cs.isEmpty then [] else mark :: cs

/-- The text of a URL. -/
def toChars (u : Url) : List Char :=
  let path := u.path ++ marked ';' u.params
  let located :=
    if !u.authority.isEmpty || (!u.scheme.isEmpty &&
        authoritySchemes.contains (String.ofList u.scheme) && path.take 2 ≠ ['/', '/']) then
      '/' :: '/' :: u.authority ++
        (if !path.isEmpty && path.head? ≠ some '/' then '/' :: path else path)
    else path
  (if u.scheme.isEmpty then [] else u.scheme ++ [':']) ++ located ++ marked '?' u.query ++
    marked '#' u.fragment

/-- The segments that stay when those of one or two points are taken out, the last one first. -/
def resolveDots (segments : List (List Char)) : List (List Char) :=
  segments.foldl (fun kept segment =>
    if segment = ['.', '.'] then kept.drop 1
    else if segment = ['.'] then kept
    else segment :: kept) []

/-- The list without its empty elements other than the first and the last. -/
def dropEmptyInner (segments : List (List Char)) : List (List Char) :=
  match segments with
  | [] => []
  | [segment] => [segment]
  | segment :: rest => segment :: rest.dropLast.filter (!·.isEmpty) ++ [rest.getLastD []]

/-- A relative path in place of the last segment of another one. -/
def joinPaths (base path : List Char) : List Char :=
  let segments :=
    if path.head? = some '/' then Text.splitAt '/' path
    else
      let parts := Text.splitAt '/' base
      let folder := if (parts.getLastD []).isEmpty then parts else parts.dropLast
      dropEmptyInner (folder ++ Text.splitAt '/' path)
  let final := segments.getLastD []
  let kept := (resolveDots segments).reverse ++
    (if final = ['.'] || final = ['.', '.'] then [[]] else [])
  let joined := ['/'].intercalate kept
  if joined.isEmpty then ['/'] else joined

/-- The URL that a reference denotes beside a base. -/
def join (base reference : String) : Except UrlFault String := do
  if base.isEmpty then .ok reference
  else if reference.isEmpty then .ok base
  else
    let b ← split [] base.toList
    let r ← split b.scheme reference.toList
    let scheme := String.ofList r.scheme
    if r.scheme ≠ b.scheme || !relativeSchemes.contains scheme then .ok reference
    else if authoritySchemes.contains scheme && !r.authority.isEmpty then
      .ok (String.ofList r.toChars)
    else
      let r := if authoritySchemes.contains scheme then { r with authority := b.authority } else r
      if r.path.isEmpty && r.params.isEmpty then
        let query := if r.query.isEmpty then b.query else r.query
        .ok (String.ofList
          { r with path := b.path, params := b.params, query := query }.toChars)
      else .ok (String.ofList { r with path := joinPaths b.path r.path }.toChars)

/-- Whether a text is a URL with a scheme, and not a reference. -/
def isAbsolute (s : String) : Except UrlFault Bool :=
  (split [] s.toList).map fun u => !u.scheme.isEmpty

end Url

end PagedTables
