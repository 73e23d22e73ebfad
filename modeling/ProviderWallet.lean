import ProviderWallet.Abi
import ProviderWallet.Address
import ProviderWallet.Amount
import ProviderWallet.Binary64
import ProviderWallet.Bytes
import ProviderWallet.Cipher.Aes256
import ProviderWallet.Cipher.Gcm
import ProviderWallet.Collateral
import ProviderWallet.Command.Arguments
import ProviderWallet.Command.Basic
import ProviderWallet.Command.Perform
import ProviderWallet.Command.Program
import ProviderWallet.Command.Report
import ProviderWallet.Command.Session
import ProviderWallet.Command.Usage
import ProviderWallet.Config.Basic
import ProviderWallet.Config.Load
import ProviderWallet.Config.Reader
import ProviderWallet.Confirmation
import ProviderWallet.Contract.Account
import ProviderWallet.Contract.Basic
import ProviderWallet.Contract.NativeCollateral
import ProviderWallet.Contract.Token
import ProviderWallet.Contract.TokenCollateral
import ProviderWallet.Curve.Ecdsa
import ProviderWallet.Curve.Secp256k1
import ProviderWallet.Decimal
import ProviderWallet.Failure
import ProviderWallet.Fee
import ProviderWallet.Hash.Argon2id
import ProviderWallet.Hash.Blake2b
import ProviderWallet.Hash.Keccak
import ProviderWallet.Hash.Sha256
import ProviderWallet.Http.Host
import ProviderWallet.Http.Status
import ProviderWallet.Http.Url
import ProviderWallet.Hub.Escrow
import ProviderWallet.Hub.Lookup
import ProviderWallet.Hub.Page
import ProviderWallet.Json.Basic
import ProviderWallet.Json.Fields
import ProviderWallet.Json.Reader
import ProviderWallet.Json.Writer
import ProviderWallet.Key
import ProviderWallet.Keystore.Basic
import ProviderWallet.Keystore.Folder
import ProviderWallet.Keystore.Memory
import ProviderWallet.Keystore.Record
import ProviderWallet.Keystore.Seal
import ProviderWallet.Main
import ProviderWallet.Network
import ProviderWallet.Node
import ProviderWallet.Operator
import ProviderWallet.Problem
import ProviderWallet.Quantity
import ProviderWallet.Rehearsal.Pool
import ProviderWallet.Rehearsal.Script
import ProviderWallet.Rehearsal.World
import ProviderWallet.Rlp
import ProviderWallet.Row
import ProviderWallet.Rpc.Client
import ProviderWallet.Rpc.Query
import ProviderWallet.Rpc.Result
import ProviderWallet.Signature
import ProviderWallet.Storage.Files
import ProviderWallet.Storage.Path
import ProviderWallet.Submission
import ProviderWallet.Table
import ProviderWallet.Text.Blank
import ProviderWallet.Text.Graphic
import ProviderWallet.Text.Hex
import ProviderWallet.Text.Quoted
import ProviderWallet.Text.Utf8
import ProviderWallet.Toml.Basic
import ProviderWallet.Toml.Number
import ProviderWallet.Toml.Reader
import ProviderWallet.Toml.Text
import ProviderWallet.Transaction.Basic
import ProviderWallet.Transaction.Wire
import ProviderWallet.Waiter
import ProviderWallet.Wallet
import ProviderWallet.Workflow
import ProviderWallet.Proofs.HandingOver
import ProviderWallet.Proofs.ApprovedDeposit
import ProviderWallet.Proofs.RetrySafety
import ProviderWallet.Proofs.Interleaving
import ProviderWallet.Proofs.Turn
import ProviderWallet.Proofs.NonceSequence
import ProviderWallet.Proofs.Spelling
import ProviderWallet.Proofs.Blanks
import ProviderWallet.Proofs.RecordName
import ProviderWallet.Proofs.JsonText
import ProviderWallet.Proofs.CipherStream
import ProviderWallet.Proofs.FolderFiles
import ProviderWallet.Proofs.FileChanges
import ProviderWallet.Proofs.RecordChanges
import ProviderWallet.Proofs.StoredRecord
import ProviderWallet.Proofs.KeptRecords
import ProviderWallet.Proofs.Custody
import ProviderWallet.Proofs.FolderAsMemory
import ProviderWallet.Proofs.UnseenCache
import ProviderWallet.Proofs.StaleKeys
import ProviderWallet.Proofs.SignerIdentity
import ProviderWallet.Proofs.SharedFolder
import ProviderWallet.Proofs.SubmissionCourse
import ProviderWallet.Proofs.RlpRoundTrip
import ProviderWallet.Proofs.SignThenVerify
import ProviderWallet.Proofs.SignedTransaction
import ProviderWallet.Proofs.ListedAccounts
import ProviderWallet.Proofs.QuickDigest
import ProviderWallet.Proofs.Declarations
import ProviderWallet.Proofs.AbiRoundTrip
import ProviderWallet.Proofs.CallData
import ProviderWallet.Proofs.ContractViews
import ProviderWallet.Proofs.Outgoing
import ProviderWallet.Proofs.ShownFiles
import ProviderWallet.Proofs.RecordEffects
import ProviderWallet.Proofs.CommandCourse
import ProviderWallet.Proofs.CommandEffects
import ProviderWallet.Proofs.ReceiptWait
import ProviderWallet.Proofs.DecimalValue
import ProviderWallet.Proofs.AmountText
import ProviderWallet.Proofs.FeeOffers
import ProviderWallet.Proofs.EscrowBody
import ProviderWallet.Proofs.NearestDouble
import ProviderWallet.Proofs.EscrowNumber
import ProviderWallet.Proofs.NumberText
import ProviderWallet.Proofs.StoringRecord
import ProviderWallet.Proofs.SignatureForms
import ProviderWallet.Proofs.KeyDeletion
import ProviderWallet.Proofs.SteadyAnswers
import ProviderWallet.Proofs.ListedRows
import ProviderWallet.Proofs.ProblemHints
import ProviderWallet.Proofs.RefusedTransactions
import ProviderWallet.Proofs.JsonRoundTrip
import ProviderWallet.Proofs.ListedJson
import ProviderWallet.Proofs.TableLines
import ProviderWallet.Proofs.KeySpelling
import ProviderWallet.Proofs.ConfigSources
import ProviderWallet.Proofs.TableColumns
import ProviderWallet.Proofs.HexNumber
import ProviderWallet.Proofs.KeyReading
import ProviderWallet.Proofs.AddressText
