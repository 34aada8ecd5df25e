import GraffiTab.Library.Runs
import GraffiTab.Library.Tables
import GraffiTab.Results
import GraffiTab.Entities
import GraffiTab.Lookups
import GraffiTab.Validation
import GraffiTab.ThreadLocals
import GraffiTab.Registration
import GraffiTab.Accounts
import GraffiTab.ResetTokens
import GraffiTab.Authentication
import GraffiTab.ActiveAccounts
import GraffiTab.ExternalAccounts
import GraffiTab.Identities
import GraffiTab.Sessions
import GraffiTab.Paging
import GraffiTab.Writes
import GraffiTab.Ownership
import GraffiTab.Reads
import GraffiTab.Visibility
import GraffiTab.HiddenItems
import GraffiTab.AssetEffects
import GraffiTab.AssetDamage
import GraffiTab.AssetLeaks
import GraffiTab.AccountLifecycle
import GraffiTab.StaleMerges
import GraffiTab.Suspensions
import GraffiTab.LoginCounting
import GraffiTab.ActivityGroups
import GraffiTab.NotificationMarks
import GraffiTab.EdgeLists
import GraffiTab.JsonConverter
import GraffiTab.Library.Joins
import GraffiTab.Listings
import GraffiTab.UserFeed
import GraffiTab.LikesAndFollows
import GraffiTab.PushDevices
import GraffiTab.Library.ReadThenWrite
import GraffiTab.LoginRaces
import GraffiTab.SavedSessions
import GraffiTab.SocialClient
import GraffiTab.LoginIdentifiers
import GraffiTab.TextLimits
import GraffiTab.BlankPasswords
import GraffiTab.PendingUsers
import GraffiTab.GraffitiEdits
import GraffiTab.ImageScaling
import GraffiTab.PageLimits
import GraffiTab.ActivityGroupSizes
import GraffiTab.Library.Patterns
import GraffiTab.ValidationRules
import GraffiTab.AssetProcessing
import GraffiTab.CommentChanges
import GraffiTab.ContextLoading
import GraffiTab.EmailTemplates
import GraffiTab.FlagMails
import GraffiTab.LocaleResolver
import GraffiTab.Library.Calendar
import GraffiTab.NotificationWindow
import GraffiTab.Library.Arcs
import GraffiTab.LocationBox
import GraffiTab.WorkQueue
import GraffiTab.ErrorCodes
import GraffiTab.PostCommitActions
import GraffiTab.AssetLinks
import GraffiTab.Library.Matches
import GraffiTab.TextParsing
import GraffiTab.Hashtags
import GraffiTab.Library.LikePatterns
import GraffiTab.LiteralSearch
import GraffiTab.DateFormats
import GraffiTab.DateParsing
import GraffiTab.JobExecution
import GraffiTab.Library.Histories
import GraffiTab.SiteEffects
import GraffiTab.SiteHistory
import GraffiTab.Welcomes
import GraffiTab.Library.Journals
import GraffiTab.PushMessages
import GraffiTab.PushSends
import GraffiTab.Recovery
import GraffiTab.SessionUsers
import GraffiTab.Library.Views
import GraffiTab.SiteShares
import GraffiTab.Library.Walks
import GraffiTab.PageWalks
