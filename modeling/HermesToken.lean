import HermesToken.Payment.Credit
import HermesToken.Payment.TransferCredit
import HermesToken.Payment.Attribution
import HermesToken.Payment.CryptoStatus
import HermesToken.Scanner.Evm
import HermesToken.Scanner.Pages
import HermesToken.Tasks.Refunds
import HermesToken.Tasks.Submit
import HermesToken.Tasks.Midjourney
import HermesToken.Marketplace.SellerPayout
import HermesToken.Marketplace.Rollback
import HermesToken.Payment.WithdrawalRace
import HermesToken.Payment.FeeRules
import HermesToken.Referral.Repair
import HermesToken.Subscription.Overselling
import HermesToken.Subscription.StockErrors
import HermesToken.Subscription.Period
import HermesToken.Users.Balance
import HermesToken.Users.Batch
import HermesToken.Middleware.RateLimit
import HermesToken.Users.CachedRecord
import HermesToken.Users.CachedQuota
import HermesToken.Users.TwoFactor
import HermesToken.Relay.StreamScanner
import HermesToken.Relay.ChannelKeys
import HermesToken.Relay.TextQuota
import HermesToken.Marketplace.Income
import HermesToken.Marketplace.Expiry
