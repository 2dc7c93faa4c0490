import SqlBridge.Inspect
import SqlBridge.Update.Execute
import SqlBridge.Update.History
import SqlBridge.Sql.RandomOrder
import SqlBridge.Session.Script
import SqlBridge.Session.Call
import SqlBridge.Session.Client
import SqlBridge.Log.Call
import SqlBridge.Log.Setting
import SqlBridge.Value.Order
import SqlBridge.Proofs.Binding
import SqlBridge.Proofs.StatementRun
import SqlBridge.Proofs.UpdateRun
import SqlBridge.Proofs.UpdateStatement
import SqlBridge.Proofs.UpdateSinglePass
import SqlBridge.Proofs.LargeObjects
import SqlBridge.Proofs.ConditionText
import SqlBridge.Proofs.StatementText
import SqlBridge.Proofs.HandleUse
import SqlBridge.Proofs.HandleSql
import SqlBridge.Proofs.StatementCall
import SqlBridge.Proofs.VisibleColumns
import SqlBridge.Proofs.ResultShape
import SqlBridge.Proofs.ReplacementPhase
import SqlBridge.Proofs.Replacement
import SqlBridge.Proofs.LoggerUse
import SqlBridge.Proofs.FailedExecution
import SqlBridge.Proofs.RowsLeft
import SqlBridge.Proofs.KeyedFetch
import SqlBridge.Proofs.UpdateOpening
import SqlBridge.Proofs.Placeholders
import SqlBridge.Proofs.HiddenValues
import SqlBridge.Proofs.Along
import SqlBridge.Proofs.FetchModeInStep
import SqlBridge.Proofs.RandomOrder
import SqlBridge.Proofs.QueryStatistics
import SqlBridge.Proofs.QuietSteps
import SqlBridge.Proofs.ExecutionLog
import SqlBridge.Proofs.ClientLog
import SqlBridge.Proofs.NameReader
import SqlBridge.Proofs.SingleLine
import SqlBridge.Proofs.LoggedArguments
import SqlBridge.Proofs.LeadingKeyword
import SqlBridge.Proofs.CountedUpdates
import SqlBridge.Proofs.FieldMentions
import SqlBridge.Proofs.EditHistory
import SqlBridge.Proofs.CommentMarks
import SqlBridge.Proofs.QueryGrammar
import SqlBridge.Proofs.ConditionArguments
import SqlBridge.Proofs.ColumnBuffers
import SqlBridge.Proofs.ValueKeys
import SqlBridge.Proofs.LoggerLeaves
import SqlBridge.Proofs.ProjectedFetch
import SqlBridge.Proofs.TruncatedSql
import SqlBridge.Proofs.SlowQueries
import SqlBridge.Proofs.Words
import SqlBridge.Proofs.TypeNames
