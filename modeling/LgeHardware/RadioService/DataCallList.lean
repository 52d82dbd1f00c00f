import LgeHardware.Foundation.Decimal
import LgeHardware.Foundation.Tokens
import LgeHardware.RadioService.RadioResponse

/-! # Data call responses

The legacy form of a data call has its addresses in strings, separated by white space, and
the form of 1.4 has them in lists. An empty string becomes a list with an empty address.
-/

namespace LgeHardware.RadioService

open LgeHardware.Foundation

/-- `V1_0::SetupDataCallResult`. -/
structure SetupDataCallResult10 where
  status : Int32 := 0
  suggestedRetryTime : Int32 := 0
  cid : Int32 := 0
  active : Int32 := 0
  type : String := ""
  ifname : String := ""
  addresses : String := ""
  dnses : String := ""
  gateways : String := ""
  pcscf : String := ""
  mtu : Int32 := 0
  deriving DecidableEq, Repr

/-- `V1_4::SetupDataCallResult`. -/
structure SetupDataCallResult14 where
  cause : Int32
  suggestedRetryTime : Int32
  cid : Int32
  active : Int32
  type : PdpProtocolType
  ifname : String
  addresses : List String
  dnses : List String
  gateways : List String
  pcscf : List String
  mtu : Int32
  deriving DecidableEq, Repr

/-- `DelimitedStrToVec`, with the regular expression `\s+`. A string is its bytes, one
character each. -/
def delimitedStrToVec (delimitedStr : String) : List String :=
  (regexTokens isSpace delimitedStr.toList).map String.ofList

/-- The protocol that a legacy string names. -/
def pdpProtocolType (type : String) : PdpProtocolType :=
  if type = "IP" then .ip
  else if type = "IPV6" then .ipv6
  else if type = "IPV4V6" then .ipv4v6
  else if type = "PPP" then .ppp
  else if type = "NON-IP" then .nonIp
  else if type = "UNSTRUCTURED" then .unstructured
  else .other (-1)

/-- `Create1_4SetupDataCallResult`. -/
def create14SetupDataCallResult (dcResponse : SetupDataCallResult10) : SetupDataCallResult14 :=
  { cause := dcResponse.status
    suggestedRetryTime := dcResponse.suggestedRetryTime
    cid := dcResponse.cid
    active := dcResponse.active
    type := pdpProtocolType dcResponse.type
    ifname := dcResponse.ifname
    addresses := delimitedStrToVec dcResponse.addresses
    dnses := delimitedStrToVec dcResponse.dnses
    gateways := delimitedStrToVec dcResponse.gateways
    pcscf := delimitedStrToVec dcResponse.pcscf
    mtu := dcResponse.mtu }

/-! ## Tokens -/

/-- The tokens of a string. -/
def tokens (s : String) : List String := (runs isSpace s.toList).map String.ofList

/-- The string has a first character, which is not white space. -/
def BeginsWithToken (s : String) : Prop := ∃ c ∈ s.toList.head?, isSpace c = false

instance (s : String) : Decidable (BeginsWithToken s) :=
  inferInstanceAs (Decidable (∃ c ∈ s.toList.head?, _))

/-- The tokens of the text, behind an empty one where it begins with a separator or is empty. -/
theorem delimitedStrToVec_eq (s : String) : delimitedStrToVec s =
    if BeginsWithToken s then tokens s else "" :: tokens s := by
  rw [delimitedStrToVec]
  split
  next htoken => rw [regexTokens_of_token htoken, tokens]
  next hnot =>
    have hspace : ∀ c ∈ s.toList.head?, isSpace c = true := fun c hc =>
      eq_true_of_ne_false fun hsep => hnot ⟨c, hc, hsep⟩
    rw [regexTokens_of_not_token hspace]
    rfl

/-- No list is empty, not even that of a string without a token. -/
theorem delimitedStrToVec_ne_nil (s : String) : delimitedStrToVec s ≠ [] := by
  rw [delimitedStrToVec_eq]
  split
  next htoken =>
    intro hnone
    obtain ⟨c, hc, hsep⟩ := htoken
    rw [tokens, List.map_eq_nil_iff] at hnone
    have hspace : ∀ c ∈ s.toList, isSpace c = true := joined_iff_runs_eq.mpr hnone
    exact Bool.false_ne_true (hsep.symm.trans (hspace c (List.mem_of_mem_head? hc)))
  next => exact List.cons_ne_nil _ _

theorem empty_notMem_tokens (s : String) : "" ∉ tokens s := by
  intro hempty
  obtain ⟨run, hrun, hofList⟩ := List.mem_map.mp hempty
  rw [String.ofList_eq_empty_iff] at hofList
  simp [runs, hofList] at hrun

/-- The list has the tokens of the string, in order. -/
structure Splits (s : String) (list : List String) : Prop where
  tokens : list = tokens s
  joined : ∀ parts, Joined isSpace parts s.toList → list = parts.map String.ofList
  nonempty : "" ∉ list

/-- A list splits the text exactly if it is that of its tokens. -/
theorem splits_iff {s : String} {list : List String} : Splits s list ↔ list = tokens s := by
  refine ⟨Splits.tokens, ?_⟩
  rintro rfl
  refine ⟨rfl, ?_, empty_notMem_tokens s⟩
  intro parts hjoined
  rw [RadioService.tokens, hjoined.runs_eq]

theorem splits_delimitedStrToVec_iff (s : String) :
    Splits s (delimitedStrToVec s) ↔ BeginsWithToken s := by
  rw [splits_iff, delimitedStrToVec_eq]
  split
  next htoken => exact iff_of_true rfl htoken
  next hnot => exact iff_of_false (fun h => List.cons_ne_self _ _ h) hnot

/-! ## The lists of a data call -/

/-- The strings of a legacy data call with the lists that stand for them. -/
def addressLists (dcResponse : SetupDataCallResult10) (newDCR : SetupDataCallResult14) :
    List (String × List String) :=
  [(dcResponse.addresses, newDCR.addresses), (dcResponse.dnses, newDCR.dnses),
    (dcResponse.gateways, newDCR.gateways), (dcResponse.pcscf, newDCR.pcscf)]

theorem addressLists_create14 {dcResponse : SetupDataCallResult10} {s : String}
    {list : List String}
    (h : (s, list) ∈ addressLists dcResponse (create14SetupDataCallResult dcResponse)) :
    list = delimitedStrToVec s := by
  simp only [addressLists, create14SetupDataCallResult, List.mem_cons, Prod.mk.injEq,
    List.not_mem_nil, or_false] at h
  rcases h with ⟨rfl, rfl⟩ | ⟨rfl, rfl⟩ | ⟨rfl, rfl⟩ | ⟨rfl, rfl⟩ <;> rfl

/-- A string is split into its tokens exactly when it begins with one, and its list is empty
for want of a token, and only then, exactly when it has one. -/
theorem delimitedStrToVec_tokens_iff (s : String) :
    (Splits s (delimitedStrToVec s) ↔ BeginsWithToken s) ∧
      ∀ dcResponse list,
        (s, list) ∈ addressLists dcResponse (create14SetupDataCallResult dcResponse) →
          (Splits s list ↔ BeginsWithToken s) ∧
            ((list = [] ↔ tokens s = []) ↔ tokens s ≠ []) := by
  refine ⟨splits_delimitedStrToVec_iff s, ?_⟩
  intro dcResponse list hlist
  rw [addressLists_create14 hlist]
  refine ⟨splits_delimitedStrToVec_iff s, ?_⟩
  rw [iff_false_left (delimitedStrToVec_ne_nil s)]

/-- The empty string becomes a list with an empty address. -/
theorem delimitedStrToVec_empty : ¬ ((∀ s, Splits s (delimitedStrToVec s)) ∧
    ∀ dcResponse s list,
      (s, list) ∈ addressLists dcResponse (create14SetupDataCallResult dcResponse) →
        (list = [] ↔ tokens s = [])) := by
  intro h
  exact (h.1 "").nonempty (by decide)

end LgeHardware.RadioService
