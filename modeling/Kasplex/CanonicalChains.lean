import Kasplex.HeaderChains
import Kasplex.RelayedChains

/-!
# One history below every head

A payload is executed from its own fields, a block from its header; a payload
that was decoded says the same as its block. So a follower's state is that of
importing the blocks it has decoded, and since headers name their parents and
their transactions, two followers on heads of one hash have the same blocks
behind them, and the same state.
-/

namespace CanonicalChains

open Primitives MachineArith EvmState ChainSpec FeeHandler BlockExecutor EvmConfig
  PayloadAttributes PayloadBuilder SubmissionNumbers EngineTypes EngineValidator BuiltBlocks
  LedgerRuns Consensus OwnBlocks PostExecution FollowedChains RelayedChains HashLinks HeaderChains
  Paths
open KasplexBlockExecutor (executeAll)

section Contexts

variable {transact : Transact} {backend : Backend} {spec : KasplexChainSpec}

/-- Preparation reads the parent hash and the beacon root of the context, nothing
else. -/
theorem applyPreExecutionChanges_ctx (system : SystemCaller) (ctx : KasplexBlockExecutionCtx)
    (ex : KasplexBlockExecutor) (parent : ctx.parentHash = ex.ctx.parentHash)
    (root : ctx.parentBeaconBlockRoot = ex.ctx.parentBeaconBlockRoot) :
    ({ ex with ctx } : KasplexBlockExecutor).applyPreExecutionChanges system =
      (fun pre => { pre with ctx }) <$> ex.applyPreExecutionChanges system := by
  simp only [KasplexBlockExecutor.applyPreExecutionChanges, parent, root, map_bind, map_pure]

/-- Execution reads nothing of it, on the way to an error either. -/
theorem executeAll_ctx (ctx : KasplexBlockExecutionCtx) (ex : KasplexBlockExecutor)
    (txs : List Recovered) :
    executeAll transact { ex with ctx } txs =
      (fun r => (r.1, { r.2 with ctx })) <$> executeAll transact ex txs := by
  induction txs generalizing ex with
  | nil => rfl
  | cons tx txs ih =>
    simp only [executeAll, map_bind, map_pure]
    refine bind_congr fun output => ?_
    have hrest := ih (ex.commitTransaction output tx).2
    simp only [KasplexBlockExecutor.commitTransaction] at hrest ⊢
    rw [hrest, bind_map_left]

/-- A block is executed alike in all contexts of one parent and one beacon root. -/
theorem executeBlock_ctx {env : EvmEnv} {ctx ctx' : KasplexBlockExecutionCtx} {db : Database}
    {txs : List Recovered} (parent : ctx'.parentHash = ctx.parentHash)
    (root : ctx'.parentBeaconBlockRoot = ctx.parentBeaconBlockRoot) :
    executeBlock backend spec env ctx' db txs = executeBlock backend spec env ctx db txs := by
  have hprepared := applyPreExecutionChanges_ctx backend.system ctx'
    (KasplexBlockExecutor.new env db ctx spec) parent root
  have hnew : ({ KasplexBlockExecutor.new env db ctx spec with ctx := ctx' } :
      KasplexBlockExecutor) = KasplexBlockExecutor.new env db ctx' spec := rfl
  rw [hnew] at hprepared
  unfold executeBlock
  rw [hprepared, bind_map_left]
  refine bind_congr fun pre => ?_
  rw [executeAll_ctx]
  cases executeAll backend.transact pre txs <;> rfl

end Contexts

section Payloads

variable {backend : Backend} {config : KasplexEvmConfig} {cfgAt : U64 → U64 → CfgEnv}
  {nextBaseFee : Header → NextBlockEnvAttributes → U64}

/-- What an accepted payload was decoded into. -/
theorem accepted_decoded {alloy : Alloy}
    (rebuilds : alloy.tryIntoBlock = blockFromPayload alloy.decode2718Exact alloy.orderedTrieRoot)
    {mapping : TxMapping} {data : ExecutionData} {block : RecoveredBlock}
    (accepted : (ensureWellFormedPayload alloy mapping data).1 = .ok block) :
    ∃ p transactions baseFee, data.payload = .v1 p ∧
      p.transactions.mapM alloy.decode2718Exact = some transactions ∧
      transactions.mapM alloy.tryRecover = some block.senders ∧
      baseFee.toNat = p.baseFeePerGas.toNat ∧
      block.sealedBlock = alloy.sealSlow
        (fixWithdrawalsRoot (decodedBlock alloy.orderedTrieRoot p transactions baseFee)) := by
  obtain ⟨p, decoded, hp, hdecoded, hsenders, hsealed, -⟩ :=
    ensureWellFormedPayload_eq_ok_iff.mp accepted
  rw [rebuilds] at hdecoded
  obtain ⟨-, transactions, baseFee, htxs, hfee, rfl⟩ := blockFromPayload_eq_ok hdecoded
  exact ⟨p, transactions, baseFee, hp, htxs, hsenders, hfee, hsealed⟩

/-- The iterator of a payload gives the transactions and senders of the block. -/
theorem txIteratorForPayload_decoded {alloy : Alloy} {p : ExecutionPayloadV1}
    {sidecar : ExecutionPayloadSidecar} {transactions : List TransactionSigned}
    {senders : List Address}
    (decoded : p.transactions.mapM alloy.decode2718Exact = some transactions)
    (recovered : transactions.mapM alloy.tryRecover = some senders) :
    KasplexEvmConfig.txIteratorForPayload alloy ⟨.v1 p, sidecar⟩ =
      some (List.zipWith Recovered.mk transactions senders) := by
  unfold KasplexEvmConfig.txIteratorForPayload
  simp only [ExecutionPayload.asV1]
  generalize p.transactions = encoded at decoded ⊢
  induction encoded generalizing transactions senders with
  | nil =>
    cases decoded
    cases recovered
    rfl
  | cons bytes encoded ih =>
    rw [List.mapM_cons] at decoded
    obtain ⟨tx, htx, decoded⟩ := Option.bind_eq_some_iff.mp decoded
    obtain ⟨txs, htxs, decoded⟩ := Option.bind_eq_some_iff.mp decoded
    cases decoded
    rw [List.mapM_cons] at recovered
    obtain ⟨signer, hsigner, recovered⟩ := Option.bind_eq_some_iff.mp recovered
    obtain ⟨signers, hsigners, recovered⟩ := Option.bind_eq_some_iff.mp recovered
    cases recovered
    rw [List.mapM_cons, ih hsigners htxs]
    simp only [htx, hsigner, bind, Option.bind, pure, List.zipWith_cons_cons]

/-- An accepted payload is executed as its block. -/
theorem payload_as_block (fills : backend.eth.FillsFields config.chainSpec cfgAt nextBaseFee)
    (rebuilds : backend.alloy.tryIntoBlock =
      blockFromPayload backend.alloy.decode2718Exact backend.alloy.orderedTrieRoot)
    {mapping : TxMapping} {data : ExecutionData} {block : RecoveredBlock}
    (accepted : (ensureWellFormedPayload backend.alloy mapping data).1 = .ok block) :
    ∃ ctx, (KasplexEvmConfig.contextForPayload data :
        Except (Fault BlockExecutionError) KasplexBlockExecutionCtx) = .ok ctx ∧
      KasplexEvmConfig.txIteratorForPayload backend.alloy data =
        some block.recoveredTransactions ∧
      ∀ db, executeBlock backend config.chainSpec (config.evmEnvForPayload backend.eth data) ctx db
        block.recoveredTransactions = importBlock backend config db block := by
  obtain ⟨p, transactions, baseFee, hp, htxs, hsenders, hfee, hsealed⟩ :=
    accepted_decoded rebuilds accepted
  obtain ⟨payload, sidecar⟩ := data
  cases hp
  have hrecovered : block.recoveredTransactions =
      List.zipWith Recovered.mk transactions block.senders := by
    unfold RecoveredBlock.recoveredTransactions
    rw [hsealed]
    rfl
  have hnarrow : (narrowOrPanic 64 p.baseFeePerGas : Except (Fault BlockExecutionError) U64) =
      .ok baseFee := narrowOrPanic_eq_ok_iff.mpr hfee
  have henv : config.evmEnvForPayload backend.eth ⟨.v1 p, sidecar⟩ =
      config.evmEnv backend.eth block.sealedBlock.block.header := by
    have hmin : BitVec.ofNat 64 (min p.baseFeePerGas.toNat (2 ^ 64 - 1)) = baseFee := by
      rw [← hfee, Nat.min_eq_left (Nat.le_sub_one_of_lt baseFee.isLt), BitVec.ofNat_toNat,
        BitVec.setWidth_eq]
    simp only [KasplexEvmConfig.evmEnvForPayload, KasplexEvmConfig.evmEnv, fills.evmEnvForPayload,
      fills.evmEnv, hsealed, ExecutionPayload.asV1, hmin]
    rfl
  refine ⟨⟨p.parentHash, none, [], none, baseFee, p.extraData⟩, ?_, ?_, fun db => ?_⟩
  · simp only [KasplexEvmConfig.contextForPayload, hnarrow, bind, Except.bind, pure, Except.pure,
      ExecutionPayload.asV1]
  · rw [hrecovered]
    exact txIteratorForPayload_decoded htxs hsenders
  · rw [henv]
    refine executeBlock_ctx ?_ ?_
    · rw [hsealed]
      rfl
    · rw [hsealed]
      rfl

end Payloads

/-- The engine's execution of a payload; without an outcome when a transaction
does not decode or has no signer. -/
def executePayload (backend : Backend) (config : KasplexEvmConfig) (db : Database)
    (data : ExecutionData) :
    Except (Fault BlockExecutionError) (Option (BlockExecutionResult × Database)) := do
  let ctx ← KasplexEvmConfig.contextForPayload data
  match KasplexEvmConfig.txIteratorForPayload backend.alloy data with
  | none => pure none
  | some txs =>
    some <$> executeBlock backend config.chainSpec (config.evmEnvForPayload backend.eth data) ctx db
      txs

def executePayloads (backend : Backend) (config : KasplexEvmConfig) :
    Database → List ExecutionData →
      Except (Fault BlockExecutionError) (Option (List BlockExecutionResult × Database))
  | db, [] => pure (some ([], db))
  | db, data :: rest => do
    match ← executePayload backend config db data with
    | none => pure none
    | some (result, db) =>
      match ← executePayloads backend config db rest with
      | none => pure none
      | some (results, db) => pure (some (result :: results, db))

theorem executePayload_accepted {backend : Backend} {config : KasplexEvmConfig}
    {cfgAt : U64 → U64 → CfgEnv} {nextBaseFee : Header → NextBlockEnvAttributes → U64}
    (fills : backend.eth.FillsFields config.chainSpec cfgAt nextBaseFee)
    (rebuilds : backend.alloy.tryIntoBlock =
      blockFromPayload backend.alloy.decode2718Exact backend.alloy.orderedTrieRoot)
    {mapping : TxMapping} {data : ExecutionData} {block : RecoveredBlock}
    (accepted : (ensureWellFormedPayload backend.alloy mapping data).1 = .ok block)
    (db : Database) :
    executePayload backend config db data = some <$> importBlock backend config db block := by
  obtain ⟨ctx, hctx, htxs, himport⟩ := payload_as_block fills rebuilds accepted
  rw [← himport, executePayload, hctx, htxs]
  rfl

/-- Payloads that are accepted, executed one after the other as payloads, have the
results of their blocks imported one after the other: the same outcome or the
same error, on every state. -/
theorem payloads_execute_as_blocks (backend : Backend) (config : KasplexEvmConfig)
    (cfgAt : U64 → U64 → CfgEnv) (nextBaseFee : Header → NextBlockEnvAttributes → U64)
    (fills : backend.eth.FillsFields config.chainSpec cfgAt nextBaseFee)
    (rebuilds : backend.alloy.tryIntoBlock =
      blockFromPayload backend.alloy.decode2718Exact backend.alloy.orderedTrieRoot)
    (mapping : TxMapping) (chain : List ExecutionData) (blocks : List RecoveredBlock)
    (accepted : List.Forall₂ (fun data block =>
      (ensureWellFormedPayload backend.alloy mapping data).1 = .ok block) chain blocks)
    (db : Database) :
    executePayloads backend config db chain = some <$> importChain backend config db blocks := by
  induction accepted generalizing db with
  | nil => rfl
  | @cons data block chain blocks haccepted _ ih =>
    rw [executePayloads, importChain, executePayload_accepted fills rebuilds haccepted]
    cases importBlock backend config db block with
    | error fault => rfl
    | ok outcome =>
      simp only [ih, bind, Except.bind, Functor.map, Except.map]
      cases importChain backend config outcome.2 blocks <;> rfl

/-- The blocks of a chain of payloads, oldest first. -/
def decodedBlocks (alloy : Alloy) (chain : List ExecutionData) : List RecoveredBlock :=
  chain.filterMap fun data => (ensureWellFormedPayload alloy TxMapping.empty data).1.toOption

/-- The headers on top of a head, newest first, and the head. -/
def headersOn (head : SealedHeader) (blocks : List RecoveredBlock) : List SealedHeader :=
  (blocks.map fun block => sealedHeader block.sealedBlock).reverse ++ [head]

theorem headersOn_cons (head : SealedHeader) (block : RecoveredBlock)
    (blocks : List RecoveredBlock) :
    headersOn head (block :: blocks) =
      headersOn (sealedHeader block.sealedBlock) blocks ++ [head] := by
  simp only [headersOn, List.map_cons, List.reverse_cons]

theorem headersOn_length (head : SealedHeader) (blocks : List RecoveredBlock) :
    (headersOn head blocks).length = blocks.length + 1 := by
  simp only [headersOn, List.length_append, List.length_reverse, List.length_map,
    List.length_singleton]

theorem headersOn_getLast? (head : SealedHeader) (blocks : List RecoveredBlock) :
    (headersOn head blocks).getLast? = some head := by
  simp only [headersOn, List.getLast?_concat]

section Chains

variable {backend : Backend} {config : KasplexEvmConfig} {cfgAt : U64 → U64 → CfgEnv}
  {nextBaseFee : Header → NextBlockEnvAttributes → U64} {rules : SharedRules}
  {check : PostExecutionCheck} {start node : Follower} {chain : List ExecutionData}

theorem mem_decodedBlocks {alloy : Alloy} {block : RecoveredBlock}
    (h : block ∈ decodedBlocks alloy chain) :
    ∃ data ∈ chain, (ensureWellFormedPayload alloy TxMapping.empty data).1 = .ok block := by
  obtain ⟨data, hdata, hblock⟩ := List.mem_filterMap.mp h
  refine ⟨data, hdata, ?_⟩
  cases hresult : (ensureWellFormedPayload alloy TxMapping.empty data).1 with
  | ok b =>
    rw [hresult] at hblock
    cases hblock
    rfl
  | error err =>
    rw [hresult] at hblock
    cases hblock

theorem decodedBlocks_cons {alloy : Alloy} {mapping : TxMapping} {data : ExecutionData}
    {block : RecoveredBlock}
    (accepted : (ensureWellFormedPayload alloy mapping data).1 = .ok block) :
    decodedBlocks alloy (data :: chain) = block :: decodedBlocks alloy chain := by
  have hagain := accepted_any_mapping accepted TxMapping.empty
  simp only [decodedBlocks, List.filterMap_cons, hagain, Except.toOption]

/-- What a follower has accepted is a chain of headers on its first head, and
importing the blocks leads to its state. -/
theorem followed_chain (fills : backend.eth.FillsFields config.chainSpec cfgAt nextBaseFee)
    (rebuilds : backend.alloy.tryIntoBlock =
      blockFromPayload backend.alloy.decode2718Exact backend.alloy.orderedTrieRoot)
    (path : Path (FollowStep backend config rules check) start chain node) :
    (decodedBlocks backend.alloy chain).length = chain.length ∧
      (∃ results, importChain backend config start.db (decodedBlocks backend.alloy chain) =
        .ok (results, node.db)) ∧
      AcceptedChain rules config.chainSpec
        (headersOn start.head (decodedBlocks backend.alloy chain)) ∧
      (headersOn start.head (decodedBlocks backend.alloy chain)).head? = some node.head := by
  induction path with
  | nil s => exact ⟨rfl, ⟨[], rfl⟩, List.isChain_singleton _, rfl⟩
  | cons hstep _ ih =>
    cases hstep with
    | @accepted block _ _ result _ haccepted halone hlink _ hctx htxs hexecuted _ _ =>
      obtain ⟨hlength, ⟨results, himported⟩, hchain, hhead⟩ := ih
      obtain ⟨ctx, hctx', htxs', himport⟩ := payload_as_block fills rebuilds haccepted
      cases hctx.symm.trans hctx'
      cases htxs.symm.trans htxs'
      rw [himport] at hexecuted
      rw [decodedBlocks_cons haccepted, headersOn_cons]
      refine ⟨congrArg (· + 1) hlength, ⟨result :: results, ?_⟩, ?_, ?_⟩
      · simp only [importChain, hexecuted, himported, bind, Except.bind, pure, Except.pure]
      · refine List.isChain_append.mpr ⟨hchain, List.isChain_singleton _, ?_⟩
        intro newest hnewest oldest holdest
        rw [headersOn_getLast?] at hnewest
        cases hnewest
        cases holdest
        exact ⟨halone, hlink⟩
      · rw [List.head?_append, hhead]
        rfl

theorem block_eq {block block' : Block} (header : block.header = block'.header)
    (body : block.body = block'.body) : block = block' := by
  cases block
  cases header
  cases body
  rfl

/-- Accepted payloads of one header and the same encoded transactions have one
block. -/
theorem block_unique {alloy : Alloy}
    (rebuilds : alloy.tryIntoBlock = blockFromPayload alloy.decode2718Exact alloy.orderedTrieRoot)
    {mapping mapping' : TxMapping} {data data' : ExecutionData} {block block' : RecoveredBlock}
    (accepted : (ensureWellFormedPayload alloy mapping data).1 = .ok block)
    (accepted' : (ensureWellFormedPayload alloy mapping' data').1 = .ok block')
    (commits : alloy.orderedTrieRoot data.payload.asV1.transactions =
      alloy.orderedTrieRoot data'.payload.asV1.transactions →
        data.payload.asV1.transactions = data'.payload.asV1.transactions)
    (headers : sealedHeader block.sealedBlock = sealedHeader block'.sealedBlock) :
    block = block' := by
  obtain ⟨p, txs, fee, hp, htxs, hsenders, -, hsealed⟩ := accepted_decoded rebuilds accepted
  obtain ⟨p', txs', fee', hp', htxs', hsenders', -, hsealed'⟩ := accepted_decoded rebuilds accepted'
  rw [hp, hp'] at commits
  obtain ⟨sealedBlock, senders⟩ := block
  obtain ⟨sealedBlock', senders'⟩ := block'
  cases hsealed
  cases hsealed'
  have hheader := congrArg SealedHeader.header headers
  have hbytes := commits (congrArg Header.transactionsRoot hheader)
  simp only [ExecutionPayload.asV1] at hbytes
  rw [hbytes] at htxs
  cases htxs.symm.trans htxs'
  cases hsenders.symm.trans hsenders'
  have hbody : (fixWithdrawalsRoot (decodedBlock alloy.orderedTrieRoot p txs fee)).body =
      (fixWithdrawalsRoot (decodedBlock alloy.orderedTrieRoot p' txs fee')).body := by
    simp only [fixWithdrawalsRoot_body, decodedBlock]
  exact congrArg (fun block => (⟨alloy.sealSlow block, senders⟩ : RecoveredBlock))
    (block_eq hheader hbody)

end Chains

/-- Accepted headers on one head, up to tips of one hash, are the same. -/
theorem headersOn_unique {alloy : Alloy} {rules : SharedRules} {spec : KasplexChainSpec}
    (documented : rules.AsDocumented alloy) {head tip tip' : SealedHeader}
    {blocks blocks' : List RecoveredBlock}
    (accepted : AcceptedChain rules spec (headersOn head blocks))
    (accepted' : AcceptedChain rules spec (headersOn head blocks'))
    (short : blocks.length < 2 ^ 64) (short' : blocks'.length < 2 ^ 64)
    (separates : Separates SealedHeader.hash (headersOn head blocks) (headersOn head blocks'))
    (newest : (headersOn head blocks).head? = some tip)
    (newest' : (headersOn head blocks').head? = some tip') (tips : tip.hash = tip'.hash) :
    headersOn head blocks = headersOn head blocks' := by
  have hcount := headersOn_length head blocks
  have hcount' := headersOn_length head blocks'
  have hends := headersOn_getLast? head blocks
  have hends' := headersOn_getLast? head blocks'
  generalize headersOn head blocks = headers at *
  generalize headersOn head blocks' = headers' at *
  obtain ⟨older, rfl⟩ := List.head?_eq_some_iff.mp newest
  obtain ⟨older', rfl⟩ := List.head?_eq_some_iff.mp newest'
  exact linked_unique (accepted.linked documented) (accepted'.linked documented) separates
    (counted_nodup (accepted.counted documented) (by omega))
    (counted_nodup (accepted'.counted documented) (by omega)) hends hends' tips

theorem eq_of_map_eq {α β : Type} {f : α → β} {l l' : List α} (same : l.map f = l'.map f)
    (tells : ∀ a ∈ l, ∀ b ∈ l', f a = f b → a = b) : l = l' := by
  induction l generalizing l' with
  | nil => exact (List.map_eq_nil_iff.mp same.symm).symm
  | cons a l ih =>
    cases l' with
    | nil => cases same
    | cons b l' =>
      obtain ⟨hfirst, hrest⟩ := List.cons.inj same
      rw [tells a List.mem_cons_self b List.mem_cons_self hfirst, ih hrest fun x hx y hy =>
        tells x (List.mem_cons_of_mem _ hx) y (List.mem_cons_of_mem _ hy)]

/-- Two followers that started on one head, in one state, and were sent whatever
they accepted: their heads have one hash exactly when they have decoded the same
blocks, all the way down, and then they are in one state. The hashes and the
transaction roots that occur are assumed to tell apart what they are taken of. -/
theorem heads_determine_history (backend : Backend) (config : KasplexEvmConfig)
    (cfgAt : U64 → U64 → CfgEnv) (nextBaseFee : Header → NextBlockEnvAttributes → U64)
    (rules : SharedRules) (check : PostExecutionCheck)
    (fills : backend.eth.FillsFields config.chainSpec cfgAt nextBaseFee)
    (rebuilds : backend.alloy.tryIntoBlock =
      blockFromPayload backend.alloy.decode2718Exact backend.alloy.orderedTrieRoot)
    (documented : rules.AsDocumented backend.alloy) (start start' node node' : Follower)
    (same : SameChain start start') (chain chain' : List ExecutionData)
    (accepted : Path (FollowStep backend config rules check) start chain node)
    (accepted' : Path (FollowStep backend config rules check) start' chain' node')
    (short : chain.length < 2 ^ 64) (short' : chain'.length < 2 ^ 64)
    (separates : Separates SealedHeader.hash
      (headersOn start.head (decodedBlocks backend.alloy chain))
      (headersOn start.head (decodedBlocks backend.alloy chain')))
    (commits : ∀ data ∈ chain, ∀ data' ∈ chain',
      backend.alloy.orderedTrieRoot data.payload.asV1.transactions =
        backend.alloy.orderedTrieRoot data'.payload.asV1.transactions →
          data.payload.asV1.transactions = data'.payload.asV1.transactions) :
    (node.head.hash = node'.head.hash ↔
        decodedBlocks backend.alloy chain = decodedBlocks backend.alloy chain') ∧
      (node.head.hash = node'.head.hash → SameChain node node') := by
  obtain ⟨hlength, ⟨results, himported⟩, hchain, hhead⟩ := followed_chain fills rebuilds accepted
  obtain ⟨hlength', ⟨results', himported'⟩, hchain', hhead'⟩ :=
    followed_chain fills rebuilds accepted'
  rw [same.head] at hchain' hhead'
  rw [same.db] at himported'
  have hblocks : node.head.hash = node'.head.hash →
      decodedBlocks backend.alloy chain = decodedBlocks backend.alloy chain' := by
    intro tips
    rw [← hlength] at short
    rw [← hlength'] at short'
    have hheaders := headersOn_unique documented hchain hchain' short short' separates hhead hhead'
      tips
    have hmaps := List.reverse_injective (List.append_cancel_right hheaders)
    refine eq_of_map_eq hmaps fun block hblock block' hblock' sealed => ?_
    obtain ⟨data, hdata, hdecoded⟩ := mem_decodedBlocks hblock
    obtain ⟨data', hdata', hdecoded'⟩ := mem_decodedBlocks hblock'
    exact block_unique rebuilds hdecoded hdecoded' (commits data hdata data' hdata') sealed
  have hsame : decodedBlocks backend.alloy chain = decodedBlocks backend.alloy chain' →
      SameChain node node' := by
    intro blocks
    rw [blocks] at himported hhead
    have hdb := congrArg Prod.snd (Except.ok.inj (himported.symm.trans himported'))
    exact ⟨Option.some.inj (hhead'.symm.trans hhead), hdb.symm⟩
  exact ⟨⟨hblocks, fun blocks => by rw [(hsame blocks).head]⟩, fun tips => hsame (hblocks tips)⟩

section Samples

/-- The second block under a zero hash. -/
def hashlessSecond : ExecutionData := ⟨.v1 (payloadFromBlock encodeEip1559 0 secondBlock), .none⟩

def hashlessChain : List ExecutionData := [hashlessPayload, hashlessSecond]

/-- What the sample payload is decoded into. -/
def sampleDecoded : RecoveredBlock :=
  ⟨⟨⟨sampleHeader, ⟨[transfer0, transfer1], [], none⟩⟩, sampleAlloy.hashSlow sampleHeader⟩,
    [sampleSigner, sampleSigner]⟩

def secondDecoded : RecoveredBlock :=
  ⟨⟨⟨secondHeader, ⟨[], [], none⟩⟩, sampleAlloy.hashSlow secondHeader⟩, []⟩

theorem hashlessPayload_decoded :
    (ensureWellFormedPayload sampleAlloy TxMapping.empty hashlessPayload).1 =
      .ok sampleDecoded :=
  eq_ok_of_any (by decide +kernel)

theorem hashlessSecond_decoded :
    (ensureWellFormedPayload sampleAlloy TxMapping.empty hashlessSecond).1 =
      .ok secondDecoded :=
  eq_ok_of_any (by decide +kernel)

/-- A payload whose block passes every check is a step of a follower. -/
theorem exists_followed (s : Follower) (data : ExecutionData) (block : RecoveredBlock)
    (decoded : (ensureWellFormedPayload sampleAlloy TxMapping.empty data).1 = .ok block)
    (passes : ((importBlock sampleBackend sampleConfig s.db block).toOption.any fun r => decide
      (validateHeader (sampleRules sampleAlloy) kasplexMainnet (sealedHeader block.sealedBlock) =
          .ok () ∧
        validateHeaderAgainstParent (sampleRules sampleAlloy) (sealedHeader block.sealedBlock)
          s.head = .ok () ∧
        validateBlockPostExecution (sampleCheck sampleAlloy) kasplexMainnet block r.1 none =
          .ok () ∧
        sampleBackend.stateRoot r.2 = .ok block.sealedBlock.block.header.stateRoot)) = true) :
    ∃ result t, importBlock sampleBackend sampleConfig s.db block = .ok (result, t.db) ∧
      t.head = sealedHeader block.sealedBlock ∧
      FollowStep sampleBackend sampleConfig (sampleRules sampleAlloy) (sampleCheck sampleAlloy) s
        data t := by
  obtain ⟨ctx, hctx, htxs, himport⟩ :=
    @payload_as_block sampleBackend sampleConfig _ _ sampleEth_fillsFields rfl _ _ _ decoded
  obtain ⟨⟨result, db⟩, himported, hchecks⟩ := exists_of_any passes
  obtain ⟨halone, hlink, hpost, hroot⟩ := of_decide_eq_true hchecks
  have haccepted := accepted_any_mapping decoded s.mapping
  exact ⟨result, _, himported, rfl, .accepted haccepted halone hlink rfl hctx htxs
    ((himport s.db).trans himported) hpost hroot⟩

/-- A follower on the sample parent accepts both payloads. -/
theorem hashlessChain_followed :
    ∃ node, Path (FollowStep sampleBackend sampleConfig (sampleRules sampleAlloy)
      (sampleCheck sampleAlloy)) ⟨sampleParent, sampleDb, TxMapping.empty⟩ hashlessChain node := by
  obtain ⟨result, middle, himport, hhead, step⟩ :=
    exists_followed ⟨sampleParent, sampleDb, TxMapping.empty⟩ hashlessPayload sampleDecoded
      hashlessPayload_decoded (by decide +kernel)
  have hdb : middle.db = transfersDb := by
    have hbuilt : importBlock sampleBackend sampleConfig sampleDb sampleBuilt =
        .ok (result, middle.db) :=
      (executeBlock_ctx rfl rfl).trans himport
    simp only [transfersDb, hbuilt]
  obtain ⟨_, node, -, -, step'⟩ := exists_followed middle hashlessSecond secondDecoded
    hashlessSecond_decoded (by rw [hdb, hhead]; decide +kernel)
  exact ⟨node, Path.cons step (Path.cons step' (Path.nil node))⟩

end Samples

/-- The two payloads, on the state the first was built on. -/
theorem payloads_execute_as_blocks_transfers :
    executePayloads sampleBackend sampleConfig sampleDb hashlessChain =
      some <$> importChain sampleBackend sampleConfig sampleDb [sampleDecoded, secondDecoded] :=
  payloads_execute_as_blocks sampleBackend sampleConfig sampleCfg sampleNextBaseFee
    sampleEth_fillsFields rfl TxMapping.empty hashlessChain [sampleDecoded, secondDecoded]
    (.cons hashlessPayload_decoded (.cons hashlessSecond_decoded .nil)) sampleDb

/-- The two payloads without their hashes, and the ones with hashes that are sent on
for them. -/
theorem heads_determine_history_relayed :
    ∃ node node',
      Path (FollowStep sampleBackend sampleConfig (sampleRules sampleAlloy)
        (sampleCheck sampleAlloy)) ⟨sampleParent, sampleDb, TxMapping.empty⟩ hashlessChain node ∧
      Path (FollowStep sampleBackend sampleConfig (sampleRules sampleAlloy)
        (sampleCheck sampleAlloy)) ⟨sampleParent, sampleDb, TxMapping.empty⟩
        (hashlessChain.map (relay sampleAlloy)) node' ∧
      (∀ data ∈ hashlessChain, relay sampleAlloy data ≠ data) ∧
      SameChain node node' := by
  obtain ⟨node, path⟩ := hashlessChain_followed
  have same : SameChain ⟨sampleParent, sampleDb, TxMapping.empty⟩
    ⟨sampleParent, sampleDb, TxMapping.empty⟩ := ⟨rfl, rfl⟩
  obtain ⟨node', path', -⟩ := path.follows (fun _ _ _ _ step same =>
    followStep_relayed sampleEth_fillsFields rfl rfl sampleAlloy_strict step same) same
  have hblocks : decodedBlocks sampleAlloy hashlessChain =
      decodedBlocks sampleAlloy (hashlessChain.map (relay sampleAlloy)) := by decide +kernel
  have separates : Separates SealedHeader.hash
      (headersOn sampleParent (decodedBlocks sampleAlloy hashlessChain))
      (headersOn sampleParent
        (decodedBlocks sampleAlloy (hashlessChain.map (relay sampleAlloy)))) := by
    unfold Separates
    decide +kernel
  have commits : ∀ data ∈ hashlessChain, ∀ data' ∈ hashlessChain.map (relay sampleAlloy),
      sampleAlloy.orderedTrieRoot data.payload.asV1.transactions =
        sampleAlloy.orderedTrieRoot data'.payload.asV1.transactions →
          data.payload.asV1.transactions = data'.payload.asV1.transactions := by decide +kernel
  have hdetermined := heads_determine_history sampleBackend sampleConfig sampleCfg
    sampleNextBaseFee (sampleRules sampleAlloy) (sampleCheck sampleAlloy) sampleEth_fillsFields rfl
    (sampleRules_asDocumented sampleAlloy) _ _ node node' same _ _ path path' (by decide)
    (by decide) separates commits
  exact ⟨node, node', path, path', by decide +kernel, hdetermined.2 (hdetermined.1.mpr hblocks)⟩

end CanonicalChains
