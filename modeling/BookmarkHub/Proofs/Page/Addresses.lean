import BookmarkHub.Page.Window
import BookmarkHub.Proofs.Operation.Requests
import BookmarkHub.Proofs.Text.FormUrlencoded
import BookmarkHub.Settings.Basic
import BookmarkHub.SignIn.Provider

/-!
# What addresses say

The address of a window tells which page it shows, what the page was opened
with and the name of its link, and nothing else.  The addresses of a provider
and of a socket tell what they were made of in the same way.  No text that is
put into an address adds a pair to it or changes another, and no two pages
share a key but the login pages.
-/

set_option autoImplicit false

namespace BookmarkHub

open FormUrlencoded

/-! ## Queries of addresses -/

/-- The query of an address: what stands behind the first question mark, up to a fragment. -/
def queryOf (address : String) : List Char :=
  ((address.toList.dropWhile (· != '?')).drop 1).takeWhile (· != '#')

def pairsOf (address : String) : Option (List (String × String)) := parse (queryOf address)

theorem ofList_path {path stem : List Char} (parted : path = stem ++ ['?']) (marks : List Char) :
    String.ofList (path ++ marks) = String.ofList (stem ++ '?' :: marks) := by
  rw [parted, List.append_assoc, List.singleton_append]

theorem pairsOf_query {path : List Char} (plain : '?' ∉ path) (pairs : List (String × String)) :
    pairsOf (String.ofList (path ++ '?' :: query pairs)) = some pairs := by
  have before : ∀ mark ∈ path, (mark != '?') = true := by
    intro mark member
    refine bne_iff_ne.2 ?_
    rintro rfl
    exact plain member
  have whole : ∀ mark ∈ query pairs, (mark != '#') = true := by
    intro mark member
    refine bne_iff_ne.2 ?_
    rintro rfl
    exact query_ends pairs member
  have behind : queryOf (String.ofList (path ++ '?' :: query pairs)) = query pairs := by
    rw [queryOf, String.toList_ofList, List.dropWhile_append_of_pos before]
    exact List.takeWhile_eq_self_iff.2 whole
  rw [pairsOf, behind, parse_query]

namespace Page

/-! ## Windows -/

def kind : Page → String
  | .lookup => "get-bookmark"
  | .tags => "tags-tree"
  | .bookmark _ => "edit-bookmark"
  | .tag _ => "edit-tag"
  | .login .. => "login-logout"

/-- What a page is opened with: the number of what it edits, or what the login page calls. -/
def details : Page → List (String × String)
  | .lookup | .tags => []
  | .bookmark id => [("bkm_id", Decimal.ofNat id.toNat)]
  | .tag id => [("tag_id", Decimal.ofNat id.toNat)]
  | .login backFunc backArgs =>
      (backFunc.map fun name => ("back_func", name)).toList ++
        (backArgs.map fun value => ("back_args", value.toText)).toList

theorem parameters_eq (page : Page) : page.parameters = ("page", page.kind) :: page.details := by
  cases page with
  | login backFunc backArgs => cases backFunc <;> cases backArgs <;> rfl
  | _ => rfl

theorem windowUrl_eq (page : Page) :
    windowUrl page.key page.openParams = String.ofList
      ("/page-wrapper/page-wrapper.html".toList ++
        '?' :: query (page.parameters ++ [("port_name", page.key)])) := by
  have any : page.parameters ≠ [] := by
    rw [parameters_eq]
    exact List.cons_ne_nil _ _
  have marks : page.openParams.toList = query page.parameters := String.toList_ofList
  have written : page.openParams.isEmpty = false := by
    rw [Bool.eq_false_iff]
    intro empty
    rw [String.isEmpty_iff.1 empty] at marks
    -- nothing else is read from an empty query than no pairs
    have read := parse_query page.parameters
    rw [← marks] at read
    exact any (Option.some.inj read).symm
  have name : encode "port_name" ++ ['='] = "port_name=".toList := by decide
  have link : encodePair ("port_name", page.key) = "port_name=".toList ++ encode page.key := by
    rw [← name, List.append_assoc]
    rfl
  have whole : page.openParams.toList ++ '&' :: ("port_name=".toList ++ encode page.key) =
      query (page.parameters ++ [("port_name", page.key)]) := by
    rw [query_concat any, link, marks]
  unfold windowUrl
  dsimp only
  rw [if_neg (Bool.eq_false_iff.1 written), whole]
  exact ofList_path (by decide) _

/-! ## Keys -/

/-- The page without what the login page calls. -/
def uncalled : Page → Page
  | .login .. => .login none none
  | page => page

def ofKey? (key : String) : Option Page :=
  if key = "getBookmark" then some .lookup
  else if key = "tagsTree" then some .tags
  else if key = "loginLogout" then some (.login none none)
  else
    match "editBookmark-".toList.isPrefixOf? key.toList with
    | some marks => (Decimal.readWord? (String.ofList marks)).map .bookmark
    | none => do
        let marks ← "editTag-".toList.isPrefixOf? key.toList
        let id ← Decimal.readWord? (String.ofList marks)
        return .tag id

theorem ne_of_unlike {key : String} {stem marks : List Char} (whole : key.toList = stem ++ marks)
    (name : String) (unlike : ¬ stem <+: name.toList) : key ≠ name := by
  rintro rfl
  exact unlike ⟨marks, whole.symm⟩

theorem ofKey?_bookmark (id : UInt64) : ofKey? (key (.bookmark id)) = some (.bookmark id) := by
  have marks : (key (.bookmark id)).toList =
      "editBookmark-".toList ++ (Decimal.ofNat id.toNat).toList := String.toList_append
  have further := List.isPrefixOf?_eq_some_iff_append_eq.2 marks.symm
  have other := ne_of_unlike marks
  simp only [ofKey?, other "getBookmark" (by decide), other "tagsTree" (by decide),
    other "loginLogout" (by decide), if_false, further, String.ofList_toList,
    Decimal.readWord?_ofNat, Option.map]

theorem ofKey?_tag (id : UInt64) : ofKey? (key (.tag id)) = some (.tag id) := by
  have marks : (key (.tag id)).toList =
      "editTag-".toList ++ (Decimal.ofNat id.toNat).toList := String.toList_append
  have further := List.isPrefixOf?_eq_some_iff_append_eq.2 marks.symm
  have other := ne_of_unlike marks
  have noBookmark : "editBookmark-".toList.isPrefixOf? (key (.tag id)).toList = none := by
    rw [marks]
    rfl
  simp only [ofKey?, other "getBookmark" (by decide), other "tagsTree" (by decide),
    other "loginLogout" (by decide), if_false, noBookmark, further, String.ofList_toList,
    Decimal.readWord?_ofNat, bind, Option.bind, pure]

/-- A key tells the kind of a page and its number. -/
theorem ofKey?_key (page : Page) : ofKey? page.key = some page.uncalled := by
  cases page with
  | lookup | tags | login => rfl
  | bookmark id => exact ofKey?_bookmark id
  | tag id => exact ofKey?_tag id

theorem key_uncalled (page : Page) : page.uncalled.key = page.key := by
  cases page <;> rfl

theorem key_eq_iff (first second : Page) :
    first.key = second.key ↔ first.uncalled = second.uncalled := by
  constructor
  · intro same
    have read := congrArg ofKey? same
    rw [ofKey?_key, ofKey?_key] at read
    exact Option.some.inj read
  · intro same
    rw [← key_uncalled first, same, key_uncalled]

end Page

/-! ## Other addresses -/

theorem Provider.authorizeUrl_eq (provider : Provider) (clientId redirectUri : String) :
    provider.authorizeUrl clientId redirectUri = String.ofList
      ("https://accounts.google.com/o/oauth2/auth".toList ++
        '?' :: query (grantParameters clientId redirectUri)) := by
  have address : provider.authorizeUrl clientId redirectUri = String.ofList
      ("https://accounts.google.com/o/oauth2/auth?".toList ++
        query (grantParameters clientId redirectUri)) := by
    cases provider
    rw [String.ofList_append, String.ofList_toList]
    rfl
  rw [address]
  exact ofList_path (by decide) _

theorem Settings.socketUrl_eq (settings : Settings) (token : String) :
    settings.socketUrl token = settings.socketUrl "" ++ String.ofList (encode token) := by
  have nothing : encode "" = [] := rfl
  simp only [socketUrl, nothing, String.ofList_nil, String.append_empty]

theorem Settings.socketUrl_ends (settings : Settings) :
    "?token=".toList <:+ (settings.socketUrl "").toList := by
  have nothing : encode "" = [] := rfl
  have path : "?token=".toList <:+ "/api/my/wsconnect?token=".toList := by decide
  simp only [socketUrl, nothing, String.ofList_nil, String.append_empty, String.toList_append]
  exact path.trans (List.suffix_append _ _)

/-! ## All of them -/

/-- Whatever texts an address is made of, they can be read off it, and nothing else.  Pages of one
kind and with one number share their key, and no others. -/
structure AddressesTell : Prop where
  window : ∀ page : Page, pairsOf (Page.windowUrl page.key page.openParams) =
    some (("page", page.kind) :: page.details ++ [("port_name", page.key)])
  keys : ∀ first second : Page, first.key = second.key ↔ first.uncalled = second.uncalled
  grant : ∀ (provider : Provider) (clientId redirectUri : String),
    pairsOf (provider.authorizeUrl clientId redirectUri) =
      some [("scope", "email"), ("redirect_uri", redirectUri), ("client_id", clientId),
        ("response_type", "code")]
  socket : ∀ settings : Settings, "?token=".toList <:+ (settings.socketUrl "").toList ∧
    ∀ token, ∃ marks, settings.socketUrl token = settings.socketUrl "" ++ String.ofList marks ∧
      decode marks = some token ∧ parse ("token=".toList ++ marks) = some [("token", token)]

theorem addresses_tell : AddressesTell where
  window page := by
    rw [Page.windowUrl_eq, pairsOf_query (by decide), Page.parameters_eq]
  keys := Page.key_eq_iff
  grant provider clientId redirectUri := by
    rw [Provider.authorizeUrl_eq, pairsOf_query (by decide), Provider.grantParameters]
  socket settings := by
    refine ⟨settings.socketUrl_ends, fun token => ⟨encode token, settings.socketUrl_eq token,
      decode_encode token, ?_⟩⟩
    have name : encode "token" ++ ['='] = "token=".toList := by decide
    have pair : "token=".toList ++ encode token = query [("token", token)] := by
      rw [← name, List.append_assoc, query, List.map_singleton, List.intercalate_singleton]
      rfl
    rw [pair, parse_query]

end BookmarkHub
