import BookmarkHub.Proofs.Page.Addresses
import BookmarkHub.Socket.Address
import Mathlib.Data.List.Infix

/-!
# What a redacted address shows

An address has a place for a token where a parameter is named `token` and
nothing else.  Redacting looks for that name wherever it stands, and not for the
parameter.  So the token is hidden unless the name stands earlier in the address
with an `&` behind it: then redacting stops at that `&` and the token is shown.
-/

set_option autoImplicit false

namespace BookmarkHub.SocketAddress

def tokenName : List Char := "token=".toList

def stars : List Char := "token=***".toList

/-- What is left of an address behind a value. -/
def behindValue (marks : List Char) : List Char := marks.dropWhile (· != '&')

/-! ## Where a value ends -/

section Values
variable {value : List Char}

theorem behindValue_append (whole : '&' ∉ value) (rest : List Char) :
    behindValue (value ++ rest) = behindValue rest := by
  refine List.dropWhile_append_of_pos fun mark member => bne_iff_ne.2 ?_
  rintro rfl
  exact whole member

theorem behindValue_of_ends (ends : '&' ∈ value) (rest : List Char) :
    behindValue (value ++ rest) = behindValue value ++ rest := by
  have stops : (value.dropWhile (· != '&')).isEmpty = false := by
    simpa using ends
  rw [behindValue, List.dropWhile_append, stops]
  rfl

end Values

/-! ## Where a name stands -/

section Names
variable {name behind : List Char} {joint : Char}

theorem prefix_of_apart (before : List Char) (apart : joint ∉ name)
    (begins : name <+: before ++ joint :: behind) :
    name <+: before := by
  obtain ⟨more, same⟩ := begins
  rcases List.append_eq_append_iff.1 same with ⟨left, whole, _⟩ | ⟨across, whole, later⟩
  · exact ⟨left, whole.symm⟩
  · cases across with
    | nil => exact ⟨[], by rw [whole, List.append_nil, List.append_nil]⟩
    | cons mark marks =>
        refine absurd ?_ apart
        rw [whole, (List.cons.inj later).1]
        exact List.mem_append_right _ (List.mem_cons_self ..)

theorem infix_of_apart {before : List Char} (apart : joint ∉ name)
    (stands : name <:+: before ++ joint :: behind) :
    name <:+: before ∨ name <:+: behind := by
  induction before with
  | nil =>
      rcases List.infix_cons_iff.1 stands with first | later
      · exact .inl (prefix_of_apart [] apart first).isInfix
      · exact .inr later
  | cons mark marks ih =>
      rcases List.infix_cons_iff.1 stands with first | later
      · exact .inl (prefix_of_apart (mark :: marks) apart first).isInfix
      · exact (ih later).imp_left List.infix_cons

end Names

/-! ## What is replaced -/

theorem redactMarks_name (rest : List Char) :
    redactMarks (tokenName ++ rest) = stars ++ behindValue rest := rfl

theorem redactMarks_other {mark : Char} {rest : List Char}
    (other : ¬ tokenName <+: mark :: rest) :
    redactMarks (mark :: rest) = mark :: redactMarks rest := by
  rw [redactMarks, if_neg]
  exact fun begins => other (List.isPrefixOf_iff_prefix.1 begins)

section Replaced
variable {before : List Char}

theorem redactMarks_unnamed (unnamed : ¬ tokenName <:+: before) {joint : Char}
    (apart : joint ∉ tokenName) (rest : List Char) :
    redactMarks (before ++ joint :: rest) = before ++ joint :: redactMarks rest := by
  induction before with
  | nil =>
      refine redactMarks_other fun begins => ?_
      have nothing := prefix_of_apart [] apart begins
      exact absurd nothing (by decide)
  | cons mark marks ih =>
      have other : ¬ tokenName <+: mark :: (marks ++ joint :: rest) := fun begins =>
        unnamed (prefix_of_apart (mark :: marks) apart begins).isInfix
      rw [List.cons_append, redactMarks_other other,
        ih fun later => unnamed (List.infix_cons later)]
      rfl

/-- What stands behind the first name counts as its value, up to an `&`. -/
theorem redactMarks_named (named : tokenName <:+: before) :
    ∃ first rest, before = first ++ (tokenName ++ rest) ∧
      (∀ other more, before = other ++ (tokenName ++ more) → more <:+ rest) ∧
      ∀ behind, redactMarks (before ++ behind) =
        first ++ (stars ++ behindValue (rest ++ behind)) := by
  induction before with
  | nil => exact absurd named (by decide)
  | cons mark marks ih =>
      by_cases begins : tokenName <+: mark :: marks
      · obtain ⟨rest, same⟩ := begins
        refine ⟨[], rest, same.symm, fun other more again => ?_, fun behind => ?_⟩
        · have whole : other ++ (tokenName ++ more) = tokenName ++ rest :=
            again.symm.trans same.symm
          have shorter : more.length ≤ rest.length := by
            have lengths := congrArg List.length whole
            simp only [List.length_append] at lengths
            omega
          have suffix : more <:+ tokenName ++ rest := by
            rw [← whole, ← List.append_assoc]
            exact List.suffix_append _ _
          exact List.suffix_of_suffix_length_le suffix (List.suffix_append _ _) shorter
        · rw [← same, List.append_assoc, redactMarks_name]
          rfl
      · have later : tokenName <:+: marks := (List.infix_cons_iff.1 named).resolve_left begins
        obtain ⟨first, rest, same, earliest, shown⟩ := ih later
        refine ⟨mark :: first, rest, by rw [same]; rfl, fun other more again => ?_,
          fun behind => ?_⟩
        · cases other with
          | nil => exact absurd ⟨more, again.symm⟩ begins
          | cons head other => exact earliest other more (List.cons.inj again).2
        · -- the name has no more marks than stand here, so it begins here or nowhere
          have other : ¬ tokenName <+: mark :: (marks ++ behind) := fun reaches =>
            begins <| List.prefix_of_prefix_length_le reaches
              (List.prefix_append (mark :: marks) behind)
              (Nat.le_succ_of_le later.length_le)
          rw [List.cons_append, redactMarks_other other, shown]
          rfl

end Replaced

/-! ## Places for a token -/

/-- An address with a place for the value of a parameter that is named `token` and nothing else.
The joint parts the parameter from what comes before it. -/
structure TokenPlace where
  before : List Char
  joint : Char
  after : List Char
  joins : joint = '?' ∨ joint = '&'
  ends : ∀ mark ∈ after.head?, mark = '&'

/-- The value of a parameter runs up to the next `&` or the end. -/
abbrev TokenValue := { marks : List Char // '&' ∉ marks }

namespace TokenPlace

def fill (place : TokenPlace) (token : TokenValue) : String :=
  String.ofList (place.before ++ place.joint :: (tokenName ++ (token.val ++ place.after)))

/-- The name stands before the parameter already, and an `&` behind it. -/
def Preceded (place : TokenPlace) : Prop :=
  ∃ first rest, place.before = first ++ (tokenName ++ rest) ∧ '&' ∈ rest ++ [place.joint]

section Places
variable (place : TokenPlace)

theorem apart : place.joint ∉ tokenName := by
  rcases place.joins with joint | joint <;> rw [joint] <;> decide

theorem behindValue_after : behindValue place.after = place.after := by
  have ends := place.ends
  cases after : place.after with
  | nil => rfl
  | cons mark marks =>
      rw [after] at ends
      rw [ends mark rfl]
      rfl

variable {place}

theorem redacted_unnamed (unnamed : ¬ tokenName <:+: place.before) (token : TokenValue) :
    redacted (place.fill token) =
      String.ofList (place.before ++ place.joint :: (stars ++ place.after)) := by
  rw [redacted, fill, String.toList_ofList, redactMarks_unnamed unnamed place.apart,
    redactMarks_name, behindValue_append token.property, place.behindValue_after]

theorem redacted_unpreceded (alone : ¬ place.Preceded) (named : tokenName <:+: place.before) :
    ∃ first, ∀ token, redacted (place.fill token) =
      String.ofList (first ++ (stars ++ place.after)) := by
  obtain ⟨first, rest, same, _, shown⟩ := redactMarks_named named
  have goesOn : '&' ∉ rest ++ [place.joint] := fun ends => alone ⟨first, rest, same, ends⟩
  refine ⟨first, fun token => ?_⟩
  have value : '&' ∉ (rest ++ [place.joint]) ++ (tokenName ++ token.val) := by
    intro member
    rcases List.mem_append.1 member with earlier | later
    · exact goesOn earlier
    · exact (List.mem_append.1 later).elim (by decide) token.property
  have parted : rest ++ place.joint :: (tokenName ++ (token.val ++ place.after)) =
      (rest ++ [place.joint]) ++ (tokenName ++ token.val) ++ place.after := by
    simp only [List.append_assoc, List.cons_append, List.nil_append]
  rw [redacted, fill, String.toList_ofList, shown, parted, behindValue_append value,
    place.behindValue_after]

/-- An earlier value that ends before the parameter leaves the token as it is. -/
theorem redacted_preceded (preceded : place.Preceded) :
    ∃ shown, ∀ token, redacted (place.fill token) =
      String.ofList (shown ++ (tokenName ++ (token.val ++ place.after))) := by
  obtain ⟨other, more, again, ends⟩ := preceded
  have named : tokenName <:+: place.before := ⟨other, more, by rw [again, List.append_assoc]⟩
  obtain ⟨first, rest, _, earliest, shown⟩ := redactMarks_named named
  have among : '&' ∈ rest ++ [place.joint] := by
    obtain ⟨between, same⟩ := earliest other more again
    rw [← same, List.append_assoc]
    exact List.mem_append_right _ ends
  refine ⟨first ++ (stars ++ behindValue (rest ++ [place.joint])), fun token => ?_⟩
  have parted : rest ++ place.joint :: (tokenName ++ (token.val ++ place.after)) =
      rest ++ [place.joint] ++ (tokenName ++ (token.val ++ place.after)) := by
    rw [List.append_assoc, List.singleton_append]
  rw [redacted, fill, String.toList_ofList, shown, parted, behindValue_of_ends among]
  simp only [List.append_assoc]

end Places

end TokenPlace

/-- What a redacted address shows of the token in it.  The token makes no difference unless an
earlier value ends before the parameter; then the whole token is shown. -/
structure Redacts (place : TokenPlace) : Prop where
  plain : ¬ tokenName <:+: place.before → ∀ token, redacted (place.fill token) =
    String.ofList (place.before ++ place.joint :: (stars ++ place.after))
  hides : (∀ token other, redacted (place.fill token) = redacted (place.fill other)) ↔
    ¬ place.Preceded
  shows : place.Preceded → ∃ shown, ∀ token, redacted (place.fill token) =
    String.ofList (shown ++ (tokenName ++ (token.val ++ place.after)))

/-- Every address is redacted so that its token is hidden or shown as a whole, by what stands
before it. -/
theorem redaction_hides (place : TokenPlace) : Redacts place where
  plain := TokenPlace.redacted_unnamed
  shows := TokenPlace.redacted_preceded
  hides := by
    constructor
    · intro hidden preceded
      obtain ⟨shown, whole⟩ := TokenPlace.redacted_preceded preceded
      have same := hidden ⟨[], by decide⟩ ⟨['s'], by decide⟩
      rw [whole, whole, String.ofList_inj] at same
      have lengths := congrArg List.length same
      simp only [List.length_append, List.length_cons, List.length_nil] at lengths
      omega
    · intro alone token other
      by_cases named : tokenName <:+: place.before
      · obtain ⟨first, shown⟩ := TokenPlace.redacted_unpreceded alone named
        rw [shown, shown]
      · rw [TokenPlace.redacted_unnamed named, TokenPlace.redacted_unnamed named]

/-! ## A name that ends in the same way -/

/-- A parameter named `mytoken` comes before the one named `token`. -/
def namesake : TokenPlace where
  before := "ws://h/x?mytoken=a".toList
  joint := '&'
  after := []
  joins := .inr rfl
  ends := nofun

theorem namesake_shown : ¬ ∀ (place : TokenPlace) (token other : TokenValue),
    redacted (place.fill token) = redacted (place.fill other) := by
  intro claim
  have first : redacted (namesake.fill ⟨"secret".toList, by decide⟩) =
      "ws://h/x?mytoken=***&token=secret" := by decide
  have second : redacted (namesake.fill ⟨"other".toList, by decide⟩) =
      "ws://h/x?mytoken=***&token=other" := by decide
  have same := claim namesake ⟨"secret".toList, by decide⟩ ⟨"other".toList, by decide⟩
  rw [first, second] at same
  exact absurd same (by decide)

/-! ## The addresses of this program -/

def ownPlace (settings : Settings) : TokenPlace where
  before := ((if settings.secure then "wss" else "ws") ++ "://" ++ settings.server ++
    "/api/my/wsconnect").toList
  joint := '?'
  after := []
  joins := .inl rfl
  ends := nofun

def ownToken (token : String) : TokenValue :=
  ⟨FormUrlencoded.encode token, fun member => (FormUrlencoded.encode_joins token _ member).1 rfl⟩

theorem socketUrl_eq_fill (settings : Settings) (token : String) :
    settings.socketUrl token = (ownPlace settings).fill (ownToken token) := by
  refine String.toList_inj.1 ?_
  have path : "/api/my/wsconnect?token=".toList =
      "/api/my/wsconnect".toList ++ '?' :: tokenName := by decide
  simp only [Settings.socketUrl, TokenPlace.fill, ownPlace, ownToken, String.toList_append,
    String.toList_ofList, path, List.append_assoc, List.cons_append, List.append_nil]

theorem ownPlace_unnamed {settings : Settings} (plain : ¬ tokenName <:+: settings.server.toList) :
    ¬ tokenName <:+: (ownPlace settings).before := by
  intro stands
  have parts : (ownPlace settings).before =
      (if settings.secure then "wss:/" else "ws:/").toList ++ '/' ::
        (settings.server.toList ++ '/' :: "api/my/wsconnect".toList) := by
    cases secure : settings.secure <;> simp [ownPlace, secure]
  rw [parts] at stands
  rcases infix_of_apart (by decide) stands with scheme | later
  · revert scheme
    cases settings.secure <;> decide
  · rcases infix_of_apart (by decide) later with server | path
    · exact plain server
    · revert path
      decide

/-- The address of a server whose own name has no such parameter is shown without the token. -/
theorem socketUrl_redacted {settings : Settings} (plain : ¬ tokenName <:+: settings.server.toList)
    (token : String) :
    redacted (settings.socketUrl token) = settings.socketUrl "" ++ "***" := by
  rw [socketUrl_eq_fill, TokenPlace.redacted_unnamed (ownPlace_unnamed plain), socketUrl_eq_fill]
  refine String.toList_inj.1 ?_
  have written : stars = tokenName ++ "***".toList := by decide
  have nothing : (ownToken "").val = [] := rfl
  simp only [TokenPlace.fill, String.toList_append, String.toList_ofList, written, nothing,
    ownPlace, List.append_assoc, List.cons_append, List.append_nil]

/-- Why such an address was not reached is told without the token. -/
theorem connect_hides {Target Socket : Type} {read : String → Except (List String) Target}
    {reach : Target → Except (List String) Socket} {settings : Settings}
    (plain : ¬ tokenName <:+: settings.server.toList) {token : String} {causes : List String}
    (fails : connect read reach (settings.socketUrl token) = .error causes) :
    causes.head? = some ("invalid WebSocket URL: " ++ (settings.socketUrl "" ++ "***")) ∨
      causes.head? = some "WebSocket connect failed" := by
  unfold connect at fails
  split at fails
  · cases fails
    rw [socketUrl_redacted plain]
    exact .inl rfl
  · rename_i target _
    cases reached : reach target with
    | ok socket =>
        rw [reached] at fails
        cases fails
    | error causes =>
        rw [reached] at fails
        cases fails
        exact .inr rfl

end BookmarkHub.SocketAddress
