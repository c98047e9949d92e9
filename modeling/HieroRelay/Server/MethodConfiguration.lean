import Mathlib.Data.List.Basic

/-! Rate limits of the methods, shared by the HTTP and the WebSocket server. -/

namespace HieroRelay.Server

/-- Requests of each method that a client may make in one limit duration. -/
def methodConfiguration (tier1 tier2 tier3 : Nat) : List (String × Nat) :=
  [("web3_clientVersion", tier3), ("web3_sha3", tier3), ("net_listening", tier3),
    ("net_version", tier3), ("net_peerCount", tier3), ("ADMIN_CONFIG", tier3),
    ("eth_blockNumber", tier2), ("eth_call", tier1), ("eth_coinbase", tier2),
    ("eth_blobBaseFee", tier2), ("eth_estimateGas", tier2), ("eth_gasPrice", tier2),
    ("eth_getBalance", tier2), ("eth_getBlockByHash", tier2), ("eth_getBlockByNumber", tier2),
    ("eth_getBlockReceipts", tier2), ("eth_getBlockTransactionCountByHash", tier2),
    ("eth_getBlockTransactionCountByNumber", tier2), ("eth_getCode", tier2), ("eth_chainId", tier2),
    ("eth_getFilterChanges", tier2), ("eth_getLogs", tier2), ("eth_getStorageAt", tier2),
    ("eth_getTransactionByBlockHashAndIndex", tier2),
    ("eth_getTransactionByBlockNumberAndIndex", tier2), ("eth_getTransactionByHash", tier2),
    ("eth_getTransactionCount", tier2), ("eth_getTransactionReceipt", tier2),
    ("eth_getUncleByBlockHashAndIndex", tier2), ("eth_getUncleByBlockNumberAndIndex", tier2),
    ("eth_getUncleCountByBlockHash", tier2), ("eth_getUncleCountByBlockNumber", tier2),
    ("eth_getWork", tier2), ("eth_feeHistory", tier2), ("eth_hashrate", tier1),
    ("eth_maxPriorityFeePerGas", tier1), ("eth_mining", tier1), ("eth_protocolVersion", tier2),
    ("eth_sendRawTransaction", tier1), ("eth_sendTransaction", tier1), ("eth_sign", tier1),
    ("eth_signTransaction", tier1), ("eth_submitHashrate", tier1), ("eth_submitWork", tier1),
    ("eth_syncing", tier1), ("eth_accounts", tier2), ("eth_newBlockFilter", tier2),
    ("eth_newPendingTransactionFilter", tier2), ("eth_newFilter", tier2),
    ("eth_uninstallFilter", tier2), ("eth_getFilterLogs", tier2), ("debug_traceTransaction", tier1),
    ("debug_traceBlockByNumber", tier1), ("batch_request", tier1), ("eth_getProof", tier2),
    ("eth_createAccessList", tier2)]

end HieroRelay.Server
