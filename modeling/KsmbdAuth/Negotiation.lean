import KsmbdAuth.Exchange
import KsmbdAuth.Exits

/-!
# The negotiated state of a session along a run

The account, the preauth hash, the client's flags and the server challenge of a session
make up what the NTLMSSP exchange negotiates (`Negotiated`). `Call.negotiate` says what a
call does to it, as a function of the call and of the kernel's answers: the NEGOTIATE
decoder records the flags of a message it accepts, the CHALLENGE builder draws the
challenge, and every other call leaves it as it was, on every exit: the calls that leave
the session alone keep it as every `Frame` they keep (`negotiatedFrame`), and the login
steps write only the session key. `SessRun` is a run of calls made one after another on one
session, indexed by the calls and the kernel's answers.

* `negotiated_run`: one call, on a normal return or an error exit, does what
  `Call.negotiate` says;
* `negotiated_after_trace`: along every run on one session the negotiated state is
  `Negotiated.after` of the run's trace. The account and the preauth hash never change,
  the challenge is the one the latest CHALLENGE build drew (`latestChallenge`), and the
  flags are those of the latest NEGOTIATE the decoder accepted;
* `login_answers_latest_challenge`: whatever a run did before, an AUTHENTICATE the decoder
  accepts answers the latest challenge of the run for the session's account;
* `authenticate_replay_accepted`: the decoder checks an AUTHENTICATE against that challenge
  and consumes nothing, so an accepted message is accepted again when it is replayed.
-/

namespace KsmbdAuth

variable {P : Prims} {α β : Type}

/-! ## The negotiated state -/

/-- The part of a session the NTLMSSP exchange negotiates. -/
structure Negotiated where
  usr : User
  clientFlags : Nat
  cryptkey : ByteBuf 8
  preauthHashValue : ByteBuf 64

/-- The negotiated state of a session. -/
def Sess.negotiated (s : Sess) : Negotiated :=
  ⟨s.usr, s.clientFlags, s.cryptkey, s.preauthHashValue⟩

@[simp] theorem Sess.negotiated_setSessKey (s : Sess) (off : Nat) {k : Nat} (src : ByteBuf k)
    (h : off + k ≤ 40) : (s.setSessKey off src h).negotiated = s.negotiated := rfl

@[simp] theorem Sess.negotiated_ntlmCommit (s : Sess) (b : Bool) :
    (ntlmCommit P s b).negotiated = s.negotiated := by
  cases b <;> rfl

/-- What a call does to the negotiated state of the session it is made on, with the kernel
answering as `env` says. -/
def Call.negotiate (env : Env) : Call → Negotiated → Negotiated
  | .decodeNtlmsspNegotiateBlob e negblob, v =>
    { v with clientFlags := (negotiateFlagsOf e negblob).getD v.clientFlags }
  | .buildNtlmsspChallengeBlob .., v => { v with cryptkey := env.random }
  | _, v => v

/-- The negotiated state after the calls of a trace, each with the kernel's answers. -/
def Negotiated.after (v : Negotiated) : List (Call × Env) → Negotiated
  | [] => v
  | (c, env) :: tr => (c.negotiate env v).after tr

theorem Negotiated.after_usr (v : Negotiated) :
    ∀ tr, (v.after tr).usr = v.usr ∧ (v.after tr).preauthHashValue = v.preauthHashValue
  | [] => ⟨rfl, rfl⟩
  | (c, env) :: tr => by
    have h := (c.negotiate env v).after_usr tr
    cases c <;> exact h

/-- The challenge after the calls of a trace: the one the latest CHALLENGE build drew, or
`c` when the trace builds none. -/
def latestChallenge (c : ByteBuf 8) : List (Call × Env) → ByteBuf 8
  | [] => c
  | (.buildNtlmsspChallengeBlob .., env) :: tr => latestChallenge env.random tr
  | _ :: tr => latestChallenge c tr

/-- Only the CHALLENGE builder writes the challenge. -/
theorem Negotiated.after_cryptkey (v : Negotiated) :
    ∀ tr, (v.after tr).cryptkey = latestChallenge v.cryptkey tr
  | [] => rfl
  | (c, env) :: tr => by
    have h := (c.negotiate env v).after_cryptkey tr
    cases c <;> exact h

/-! ## Calls that keep the negotiated state -/

/-- The frame of the negotiated state: every exit keeps it, whatever its error code. -/
def negotiatedFrame : Frame where
  R w w' := w'.sess.negotiated = w.sess.negotiated
  E _ := True
  refl _ := rfl
  trans h₁ h₂ := h₂.trans h₁
  tick _ := rfl
  allocTick _ := rfl
  putSlot _ _ _ := rfl
  errno _ := trivial
  enomem := trivial
  einval := trivial
  minusOne := trivial

/-- The negotiated state kept by a call, at one world. -/
theorem Frame.Keeps.negotiated {x : M α} (hx : negotiatedFrame.Keeps x) (w : World) :
    Safe (fun _ w' => w'.sess.negotiated = w.sess.negotiated) (fun _ => False) x
      (fun _ w' => w'.sess.negotiated = w.sess.negotiated) w :=
  hx.safe w

/-! ## The calls that write the session key -/

section Functions

variable {e : Endian} {buf : List UInt8} {off : Nat} {x : M α}

/-- A login step writes only the session key and the sequence number. -/
theorem keepsNegotiated_of_specs
    (hok : ∀ w, OkSpec x (fun _ w' => w'.sess.negotiated = w.sess.negotiated) w)
    (herr : ∀ w, ErrSpec x (fun _ w' => w'.sess.negotiated = w.sess.negotiated) w) :
    negotiatedFrame.Keeps x :=
  fun w => Safe.of_spec (hok w) ((herr w).mono fun _ _ h => ⟨trivial, h⟩)

theorem keepsNegotiated_computeSessKey {hash hmac : ByteBuf 16} :
    negotiatedFrame.Keeps (computeSessKey P hash hmac) :=
  keepsNegotiated_of_specs (fun _ => okSpec_computeSessKey.mono fun _ _ h => by rw [h]; rfl)
    fun _ => errSpec_computeSessKey.mono fun _ _ h => by rw [h.2]

theorem keepsNegotiated_processNtlm : negotiatedFrame.Keeps (processNtlm P buf off) :=
  keepsNegotiated_of_specs (fun _ => okSpec_processNtlm.mono fun _ _ ⟨_, _, h⟩ => by simp [h])
    fun _ => errSpec_processNtlm.mono fun _ _ h => by
      rcases h with ⟨-, h⟩ | ⟨-, -, _, h⟩ <;> simp [h]

theorem keepsNegotiated_processNtlmv2 {blen : Int} {dn : Option (List UInt8)} :
    negotiatedFrame.Keeps (processNtlmv2 P buf off blen dn) :=
  keepsNegotiated_of_specs (fun _ => okSpec_processNtlmv2.mono fun _ _ ⟨_, _, h⟩ => by simp [h])
    fun _ => errSpec_processNtlmv2.mono fun _ _ h => by
      rcases h with ⟨-, h⟩ | ⟨_, -, -, h⟩ <;> simp [h]

theorem keepsNegotiated_decodeNtlmsspAuthenticateBlob :
    negotiatedFrame.Keeps (decodeNtlmsspAuthenticateBlob P e buf) := by
  rw [decodeNtlmsspAuthenticateBlob_eq]
  split
  · exact Frame.keeps_fail trivial
  · exact keepsNegotiated_processNtlm
  · exact Frame.keeps_smbStrndupFromUtf16.bind fun _ => keepsNegotiated_processNtlmv2

end Functions

/-! ## The two calls that negotiate -/

section Negotiating

variable {e : Endian} {w : World}

/-- The NEGOTIATE decoder records the flags of a message it accepts, and its error exit
changes nothing. -/
theorem safe_decodeNtlmsspNegotiateBlob_negotiated {negblob : List UInt8} :
    Safe (fun _ w' => w'.sess.negotiated =
        (Call.decodeNtlmsspNegotiateBlob e negblob).negotiate w.env w.sess.negotiated)
      (fun _ => False) (decodeNtlmsspNegotiateBlob e negblob)
      (fun _ w' => w'.sess.negotiated =
        (Call.decodeNtlmsspNegotiateBlob e negblob).negotiate w.env w.sess.negotiated) w := by
  rw [decodeNtlmsspNegotiateBlob_eq, Call.negotiate]
  cases negotiateFlagsOf e negblob <;> exact rfl

theorem okSpec_addTargetInfo {name : List UInt8} {len : Nat} :
    ∀ types buf off total, OkSpec (addTargetInfo e name len types buf off total)
      (fun _ w' => w' = w) w
  | [], _, _, _ => okSpec_pure.mpr rfl
  | _ :: types, _, _, _ => by
    simp only [addTargetInfo, storeField, okSpec_bind, okSpec_defined]
    intros
    exact okSpec_addTargetInfo types _ _ _

theorem errSpec_addTargetInfo {name : List UInt8} {len : Nat} {Q : Int → World → Prop} :
    ∀ types buf off total, ErrSpec (addTargetInfo e name len types buf off total) Q w
  | [], _, _, _ => errSpec_pure
  | _ :: types, _, _, _ => by
    simp only [addTargetInfo, storeField, errSpec_bind, errSpec_defined, okSpec_defined, true_and]
    intros
    exact errSpec_addTargetInfo types _ _ _

variable {netbiosName chgblob : List UInt8}

/-- The CHALLENGE builder, on either host, returns only with the drawn challenge in the
session and the rest of the session as it was. -/
theorem okSpec_buildNtlmsspChallengeBlob_sess :
    OkSpec (buildNtlmsspChallengeBlob P e netbiosName chgblob)
      (fun _ w' => w'.sess = { w.sess with cryptkey := w.env.random }) w := by
  unfold buildNtlmsspChallengeBlob
  simp only [okSpec_bind, okSpec_defined, storeField, loadField, okSpec_getSess,
    okSpec_getRandomBytes, okSpec_modifySess, okSpec_pure, okSpec_smbStrtoUtf16]
  intros
  exact (okSpec_addTargetInfo _ _ _ _).mono fun _ _ h => by subst h; intros; rfl

/-- The CHALLENGE builder has no error exit: every failure in it is undefined behaviour. -/
theorem errSpec_buildNtlmsspChallengeBlob {Q : Int → World → Prop} :
    ErrSpec (buildNtlmsspChallengeBlob P e netbiosName chgblob) Q w := by
  unfold buildNtlmsspChallengeBlob
  simp only [errSpec_bind, errSpec_defined, okSpec_defined, storeField, loadField,
    errSpec_getSess, okSpec_getSess, errSpec_getRandomBytes, okSpec_getRandomBytes,
    errSpec_modifySess, okSpec_modifySess, errSpec_pure, errSpec_smbStrtoUtf16,
    okSpec_smbStrtoUtf16, true_and, okSpec_bind, okSpec_pure, implies_true, and_true,
    errSpec_addTargetInfo]
  intros
  exact fun _ _ _ => trivial

end Negotiating

/-! ## One call, and a run on one session -/

/-- One call, made on any world, on a normal return or an error exit leaves the negotiated
state `Call.negotiate` gives. -/
theorem negotiated_run (w : World) :
    ∀ c : Call, Safe (fun _ w' => w'.sess.negotiated = c.negotiate w.env w.sess.negotiated)
      (fun _ => False) (c.run P) (fun _ w' => w'.sess.negotiated = c.negotiate w.env w.sess.negotiated) w
  | .cryptoAlloc a => (Frame.keeps_cryptoAlloc a).bind_pure.negotiated w
  | .computeSessKey .. => keepsNegotiated_computeSessKey.bind_pure.negotiated w
  | .processNtlm .. => keepsNegotiated_processNtlm.bind_pure.negotiated w
  | .processNtlmv2 .. => keepsNegotiated_processNtlmv2.bind_pure.negotiated w
  | .decodeNtlmsspNegotiateBlob .. => by
    rw [Call.run, safe_bind]
    exact safe_decodeNtlmsspNegotiateBlob_negotiated.imp (fun _ _ h => h) fun _ _ h => h
  | .decodeNtlmsspAuthenticateBlob .. =>
    keepsNegotiated_decodeNtlmsspAuthenticateBlob.bind_pure.negotiated w
  | .buildNtlmsspChallengeBlob .. => by
    rw [Call.run, safe_bind]
    exact Safe.of_spec (okSpec_buildNtlmsspChallengeBlob_sess.mono fun _ _ h => by
      rw [safe_pure, h]; rfl) errSpec_buildNtlmsspChallengeBlob
  | .smb1SignSmbpdu _ => Frame.keeps_smb1SignSmbpdu.bind_pure.negotiated w
  | .smb2SignSmbpdu _ => Frame.keeps_smb2SignSmbpdu.bind_pure.negotiated w
  | .smb3SignSmbpdu .. => Frame.keeps_smb3SignSmbpdu.bind_pure.negotiated w
  | .computeSmb3xsigningkey _ => Frame.keeps_computeSmb3xsigningkey.negotiated w
  | .calcPreauthIntegrityHash .. =>
    (Frame.keeps_calcPreauthIntegrityHash fun _ _ _ => rfl).bind_pure.negotiated w

/-- A run of calls on one session: each call is made on the session the one before it
left, with the kernel answering as the trace says, and returns or leaves through an error
exit. -/
inductive SessRun (P : Prims) : World → List (Call × Env) → World → Prop
  | nil (w : World) : SessRun P w [] w
  | ok {w w₁ w₂ : World} {c : Call} {env : Env} {out : List UInt8} {tr : List (Call × Env)} :
      c.run P (w.enter w.sess env) = .ok out w₁ → SessRun P w₁ tr w₂ →
        SessRun P w ((c, env) :: tr) w₂
  | err {w w₁ w₂ : World} {c : Call} {env : Env} {rc : Int} {tr : List (Call × Env)} :
      c.run P (w.enter w.sess env) = .err rc w₁ → SessRun P w₁ tr w₂ →
        SessRun P w ((c, env) :: tr) w₂

/-- A run on one session is a run of the connection. -/
theorem SessRun.reachable {w w' : World} {tr : List (Call × Env)} (h : SessRun P w tr w') :
    Reachable P w w' := by
  induction h with
  | nil => exact .refl
  | ok hc _ ih => exact .head (Step.ok _ _ _ _ hc) ih
  | err hc _ ih => exact .head (Step.err _ _ _ _ hc) ih

theorem SessRun.negotiated_eq {w w' : World} {tr : List (Call × Env)} (h : SessRun P w tr w') :
    w'.sess.negotiated = w.sess.negotiated.after tr := by
  induction h with
  | nil => rfl
  | @ok w w₁ _ c env _ _ hc _ ih =>
    have hstep := negotiated_run (P := P) (w.enter w.sess env) c
    rw [safe_ok hc] at hstep
    rw [ih, hstep]
    rfl
  | @err w w₁ _ c env _ _ hc _ ih =>
    have hstep := negotiated_run (P := P) (w.enter w.sess env) c
    unfold Safe at hstep
    rw [hc] at hstep
    rw [ih, hstep]
    rfl

/-- Along every run of calls on one session, whatever the calls and the kernel's answers:
the negotiated state at the end is `Negotiated.after` of the trace. The account and the
preauth hash are those the run started with. -/
theorem negotiated_after_trace {w w' : World} {tr : List (Call × Env)} (h : SessRun P w tr w') :
    w'.sess.negotiated = w.sess.negotiated.after tr ∧ w'.sess.usr = w.sess.usr ∧
      w'.sess.preauthHashValue = w.sess.preauthHashValue := by
  have hafter := h.negotiated_eq
  obtain ⟨hu, hp⟩ := w.sess.negotiated.after_usr tr
  exact ⟨hafter, (congrArg Negotiated.usr hafter).trans hu,
    (congrArg Negotiated.preauthHashValue hafter).trans hp⟩

/-- A NEGOTIATE with flags 7, then a CHALLENGE for the name `FSRV` into a 108-byte buffer,
whose kernel draws the challenge `1 2 3 4 5 6 7 8`. -/
def sampleRound : List (Call × Env) :=
  [(.decodeNtlmsspNegotiateBlob .little (negotiateMessage 7), Env.clean (ByteBuf.zero 8)),
    (.buildNtlmsspChallengeBlob .little [70, 83, 82, 86] (List.replicate 108 0),
      Env.clean ⟨[1, 2, 3, 4, 5, 6, 7, 8], rfl⟩)]

set_option maxRecDepth 4000 in
/-- The sample round on a new connection. -/
theorem negotiated_after_trace_sample :
    ∃ w', SessRun Prims.zeros World.sample sampleRound w' ∧
      (w'.sess.negotiated = World.sample.sess.negotiated.after sampleRound ∧
        w'.sess.usr = World.sample.sess.usr ∧
        w'.sess.preauthHashValue = World.sample.sess.preauthHashValue) :=
  let ⟨w', h⟩ : ∃ w', SessRun Prims.zeros World.sample sampleRound w' :=
    ⟨_, .ok rfl (.ok rfl (.nil _))⟩
  ⟨w', h, negotiated_after_trace h⟩

/-! ## Logins along a run -/

section Login

variable {e : Endian} {blob : List UInt8} {w w₁ w₂ : World} {tr : List (Call × Env)} {env : Env}

/-- The challenge at the end of a run on one session is the one its latest CHALLENGE build
drew. -/
theorem SessRun.cryptkey_eq (hrun : SessRun P w tr w₁) :
    w₁.sess.cryptkey = latestChallenge w.sess.cryptkey tr :=
  (congrArg Negotiated.cryptkey hrun.negotiated_eq).trans (w.sess.negotiated.after_cryptkey tr)

theorem SessRun.usr_eq (hrun : SessRun P w tr w₁) : w₁.sess.usr = w.sess.usr :=
  (congrArg Negotiated.usr hrun.negotiated_eq).trans (w.sess.negotiated.after_usr tr).1

/-- Whatever calls a run on one session made before, and whatever the kernel answered: an
AUTHENTICATE the decoder then accepts answers the challenge the run's latest CHALLENGE build
drew (the session's first challenge when it built none), for the account the run started
with. Routed to NTLMv1, its response agrees under `strncmp` with the `E_P24` response to
that challenge; routed to NTLMv2 with a `Length` of at least 16, it is the response the
NTLMv2 client computes from that challenge, around the same blob. -/
theorem login_answers_latest_challenge (hrun : SessRun P w tr w₁)
    (hok : decodeNtlmsspAuthenticateBlob P e blob (w₁.enter w₁.sess env) = .ok () w₂) :
    (∀ off, authRoute e blob = some (.ntlm off) →
      strncmp blob off
        (ntlmResponseTo P w.sess.usr.passkey (latestChallenge w.sess.cryptkey tr).bytes) = some 0) ∧
    (∀ off (ntLen : Nat) dOff dLen,
      authRoute e blob = some (.ntlmv2 off ((ntLen : Int) - cifsEncpwdSize) dOff dLen) →
      16 ≤ ntLen →
      ∃ r dom, readBytes blob off ntLen = some r ∧ readBytes blob dOff dLen = some dom ∧
        r = ntlmv2Response P w.sess.usr.name w.sess.usr.passkey (P.fromUtf16 dom)
          (latestChallenge w.sess.cryptkey tr).bytes (r.drop 16)) := by
  have hc := hrun.cryptkey_eq
  have hu := hrun.usr_eq
  refine ⟨fun off hr => ?_, fun off ntLen dOff dLen hr h16 => ?_⟩
  · have h := (okSpec_decode_ntlm hr _ _ hok).1
    simpa [ntlmResponse, ntlmResponseTo, cifsNthashSize, hc, hu] using h
  · obtain ⟨r, dom, hread, hdom, hproof, -⟩ := okSpec_decode_ntlmv2_response hr h16 _ _ hok
    rw [World.enter_sess, hc, hu] at hproof
    refine ⟨r, dom, hread, hdom, ?_⟩
    calc r = r.take 16 ++ r.drop 16 := (List.take_append_drop 16 r).symm
      _ = _ := by rw [hproof]; rfl

/-- Along every run of calls on one session, from a connection whose slots are all empty or
populated: an AUTHENTICATE the decoder accepts passed its check against the challenge of the
run's latest CHALLENGE build (the session's first challenge when it built none), for the
account the run started with. The decoder keeps the user and the challenge, so nothing
consumes the challenge: when every allocation and step succeeds, the same message is
accepted again on the same session. -/
theorem authenticate_replay_accepted (h₀ : ∀ a, (w.slot a).Empty ∨ (w.slot a).Populated)
    (hrun : SessRun P w tr w₁)
    (hok : decodeNtlmsspAuthenticateBlob P e blob (w₁.enter w₁.sess env) = .ok () w₂) :
    AuthAccepts P e blob { w.sess with cryptkey := latestChallenge w.sess.cryptkey tr } ∧
      w₂.sess.usr = w₁.sess.usr ∧ w₂.sess.cryptkey = w₁.sess.cryptkey ∧
      ∀ env', env'.Clean →
        ∃ w₃, decodeNtlmsspAuthenticateBlob P e blob (w₂.enter w₂.sess env') = .ok () w₃ := by
  obtain ⟨ha, hu, hc⟩ := okSpec_decode_accepts _ _ hok
  have hreach : Reachable P w w₂ := hrun.reachable.tail
    (Step.ok (.decodeNtlmsspAuthenticateBlob e blob) _ _ [] (by rw [Call.run, bind_of_ok hok]; rfl))
  have hslot : (w₂.slot .hmacmd5).Empty ∨ (w₂.slot .hmacmd5).Populated := Slot.wf_iff_ptrs.mpr
    ((Reachable.slotsLater (fun a => Slot.wf_iff_ptrs.mp (h₀ a)) hreach).wf .hmacmd5)
  refine ⟨(authAccepts_congr hrun.usr_eq.symm hrun.cryptkey_eq.symm :
    AuthAccepts P e blob { w.sess with cryptkey := latestChallenge w.sess.cryptkey tr } ↔ _).mpr ha,
    hu, hc, fun env' hclean => ?_⟩
  obtain ⟨_, w₃, h₃, -⟩ := runs_decode_of_accepts (w := w₂.enter w₂.sess env') hclean hslot
    ((authAccepts_congr hu hc).mpr ha)
  exact ⟨w₃, h₃⟩

set_option maxRecDepth 4000 in
/-- The sample round on a new connection, then an NTLMv2 AUTHENTICATE with a 32-byte zero
response, which the zero-answering primitives accept. -/
theorem sampleRound_login :
    ∃ w₁ w₂, SessRun Prims.zeros World.sample sampleRound w₁ ∧
      decodeNtlmsspAuthenticateBlob Prims.zeros .little (authenticateMessage (List.replicate 32 0) [])
        (w₁.enter w₁.sess (Env.clean (ByteBuf.zero 8))) = .ok () w₂ :=
  ⟨_, _, .ok rfl (.ok rfl (.nil _)), rfl⟩

/-- The sample login: it answers the challenge of the sample round. -/
theorem login_answers_latest_challenge_sample :
    ∃ w₁ w₂, (SessRun Prims.zeros World.sample sampleRound w₁ ∧
      decodeNtlmsspAuthenticateBlob Prims.zeros .little (authenticateMessage (List.replicate 32 0) [])
        (w₁.enter w₁.sess (Env.clean (ByteBuf.zero 8))) = .ok () w₂) ∧
    (∀ off, authRoute .little (authenticateMessage (List.replicate 32 0) []) = some (.ntlm off) →
      strncmp (authenticateMessage (List.replicate 32 0) []) off
        (ntlmResponseTo Prims.zeros World.sample.sess.usr.passkey
          (latestChallenge World.sample.sess.cryptkey sampleRound).bytes) = some 0) ∧
    (∀ off (ntLen : Nat) dOff dLen, authRoute .little (authenticateMessage (List.replicate 32 0) []) =
        some (.ntlmv2 off ((ntLen : Int) - cifsEncpwdSize) dOff dLen) → 16 ≤ ntLen →
      ∃ r dom, readBytes (authenticateMessage (List.replicate 32 0) []) off ntLen = some r ∧
        readBytes (authenticateMessage (List.replicate 32 0) []) dOff dLen = some dom ∧
        r = ntlmv2Response Prims.zeros World.sample.sess.usr.name World.sample.sess.usr.passkey
          (Prims.zeros.fromUtf16 dom) (latestChallenge World.sample.sess.cryptkey sampleRound).bytes
          (r.drop 16)) :=
  let ⟨w₁, w₂, hrun, hdec⟩ := sampleRound_login
  ⟨w₁, w₂, ⟨hrun, hdec⟩, login_answers_latest_challenge hrun hdec⟩

/-- The sample login, replayed: on a new connection, whose slots are all empty, it is
accepted again. -/
theorem authenticate_replay_accepted_sample :
    ∃ w₁ w₂, ((∀ a, (World.sample.slot a).Empty ∨ (World.sample.slot a).Populated) ∧
        SessRun Prims.zeros World.sample sampleRound w₁ ∧
        decodeNtlmsspAuthenticateBlob Prims.zeros .little
          (authenticateMessage (List.replicate 32 0) [])
          (w₁.enter w₁.sess (Env.clean (ByteBuf.zero 8))) = .ok () w₂) ∧
      AuthAccepts Prims.zeros .little (authenticateMessage (List.replicate 32 0) [])
          { World.sample.sess with
            cryptkey := latestChallenge World.sample.sess.cryptkey sampleRound } ∧
        w₂.sess.usr = w₁.sess.usr ∧ w₂.sess.cryptkey = w₁.sess.cryptkey ∧
        ∀ env', env'.Clean → ∃ w₃, decodeNtlmsspAuthenticateBlob Prims.zeros .little
          (authenticateMessage (List.replicate 32 0) []) (w₂.enter w₂.sess env') = .ok () w₃ :=
  have h₀ : ∀ a, (World.sample.slot a).Empty ∨ (World.sample.slot a).Populated :=
    fun a => .inl (by cases a <;> exact ⟨rfl, rfl⟩)
  let ⟨w₁, w₂, hrun, hdec⟩ := sampleRound_login
  ⟨w₁, w₂, ⟨h₀, hrun, hdec⟩, authenticate_replay_accepted h₀ hrun hdec⟩

end Login

end KsmbdAuth
